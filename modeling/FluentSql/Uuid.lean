import FluentSql.Text.Hex

/-! Universally unique identifiers: sixteen octets, written as 32 lower-case hexadecimal digits in
five groups. Reading takes digits of either case, all 32 without hyphens, in groups, or in groups
inside braces or behind a name of their own. -/

namespace FluentSql.Uuid

open Text

/-- The digits in each group. -/
def groups : List Nat := [8, 4, 4, 4, 12]

/-- Takes the hyphens between the groups out. -/
def ungroup? : List Nat → List Char → Option (List Char)
  | [], s => if s.isEmpty then some [] else none
  | [n], s => if s.length = n then some s else none
  | n :: ns, s =>
    match s.drop n with
    | '-' :: r => (s.take n ++ ·) <$> ungroup? ns r
    | _ => none

def grouped? (s : List Char) : Option (List UInt8) :=
  ungroup? groups s >>= Hex.decode?

/-- The name that may stand before the groups, in letters of either case. -/
def scheme : List Char := "URN:UUID:".toList

def read? (s : List Char) : Option (List UInt8) :=
  if s.length = 32 then Hex.decode? s
  else if s.length = 36 then grouped? s
  else if s.length = 38 ∧ s.head? = some '{' ∧ s.getLast? = some '}' then
    grouped? (s.drop 1).dropLast
  else if s.length = 45 ∧ (s.take 9).map Char.toUpper = scheme then grouped? (s.drop 9)
  else none

/-- Puts hyphens between the groups. -/
def group : List Nat → List Char → List Char
  | [], s => s
  | [_], s => s
  | n :: ns, s => s.take n ++ '-' :: group ns (s.drop n)

def text (bs : List UInt8) : List Char :=
  group groups (Hex.encode bs)

end FluentSql.Uuid
