import FluentSql.Number.Integer
import FluentSql.Text.Hex

/-! Numeric host addresses. An address of 32 bits is up to four numbers between points, each
decimal, octal or hexadecimal, of which the last fills all octets that are left. An address of 128
bits is eight groups of hexadecimal digits between colons; one run of zero groups may be left out
between two colons, and the last two groups may be written as four decimal numbers. -/

namespace FluentSql.Url

open Text

/-! ### 32 bits -/

namespace Ipv4

/-- The value of digits to a base. -/
def digits? (base : Nat) (ds : List Char) : Option Nat :=
  ds.foldlM (fun n d => do
    let v ← hexValue? d
    if v < base then some (base * n + v) else none) 0

/-- A number in the base that its first characters tell. -/
def number? : List Char → Option Nat
  | [] => none
  | '0' :: 'x' :: ds => digits? 16 ds
  | '0' :: 'X' :: ds => digits? 16 ds
  | '0' :: ds => digits? 8 ds
  | ds => digits? 10 ds

/-- The parts of a host between points, without an empty last one. -/
def parts (s : List Char) : List (List Char) :=
  let ps := pieces (· == '.') s
  if ps.getLast? = some [] then ps.dropLast else ps

/-- A host that is meant as an address: its last part is a number. -/
def isMeant (s : List Char) : Bool :=
  match (parts s).getLast? with
  | some p => (!p.isEmpty && p.all isDigit) || (number? p).isSome
  | none => false

/-- The four octets of numbers, the last number filling up. -/
def octets? (ns : List Nat) : Option (List Nat) := do
  let last ← ns.getLast?
  let front := ns.dropLast
  let free := 4 - front.length
  if 4 < ns.length ∨ front.any (255 < ·) ∨ Nat.pow 256 free ≤ last then none
  else some (front ++ (List.range free).reverse.map fun i => last / Nat.pow 256 i % 256)

def read? (s : List Char) : Option (List Nat) :=
  (parts s).mapM number? >>= octets?

def text (octets : List Nat) : String :=
  String.intercalate "." (octets.map toString)

end Ipv4

/-! ### 128 bits -/

namespace Ipv6

/-- A group of one to four digits. -/
def group? (s : List Char) : Option Nat :=
  if s.isEmpty ∨ 4 < s.length then none else Ipv4.digits? 16 s

/-- A decimal number of one octet, with no zero before it. -/
def octet? (s : List Char) : Option Nat :=
  if s.isEmpty ∨ !s.all isDigit ∨ (s.head? = some '0' ∧ 1 < s.length) then none
  else
    let n := natOfDigits 0 s
    if n ≤ 255 then some n else none

/-- Two groups written as four numbers. -/
def quad? (s : List Char) : Option (List Nat) := do
  match ← (pieces (· == '.') s).mapM octet? with
  | [a, b, c, d] => some [256 * a + b, 256 * c + d]
  | _ => none

/-- Groups between colons; `atEnd` allows four numbers in the last place. -/
def groups? (atEnd : Bool) : List (List Char) → Option (List Nat)
  | [] => some []
  | [s] => if atEnd && s.contains '.' then quad? s else (fun n => [n]) <$> group? s
  | s :: ss => do
    let n ← group? s
    let ns ← groups? atEnd ss
    return n :: ns

/-- The groups of a side of an address, which may be empty. -/
def side? (atEnd : Bool) (s : List Char) : Option (List Nat) :=
  if s.isEmpty then some [] else groups? atEnd (pieces (· == ':') s)

/-- What stands before the first two colons, and behind them. -/
def splitGap : List Char → List Char × Option (List Char)
  | [] => ([], none)
  | ':' :: ':' :: cs => ([], some cs)
  | c :: cs =>
    let (front, back) := splitGap cs
    (c :: front, back)

/-- The eight groups of an address. -/
def read? (s : List Char) : Option (List Nat) := do
  match splitGap s with
  | (front, none) =>
    let ns ← side? true front
    if ns.length = 8 then some ns else none
  | (front, some back) =>
    let ns ← side? false front
    let ms ← side? true back
    if ns.length + ms.length < 8 then
      some (ns ++ List.replicate (8 - ns.length - ms.length) 0 ++ ms)
    else none

/-- Where the longest run of zeros begins, the first of equal ones, and its length; places are
counted from `start`. -/
def longestRun (start : Nat) : List Nat → Nat × Nat
  | [] => (start, 0)
  | n :: ns =>
    let here := ((n :: ns).takeWhile (· == 0)).length
    let (later, length) := longestRun (start + 1) ns
    if length ≤ here then (start, here) else (later, length)

def groupsText (ns : List Nat) : String :=
  String.intercalate ":" (ns.map fun n => Hex.ofNat 1 n)

/-- The groups in lower case, the longest run of at least two zeros left out. -/
def text (ns : List Nat) : String :=
  let (start, length) := longestRun 0 ns
  if length < 2 then groupsText ns
  else groupsText (ns.take start) ++ "::" ++ groupsText (ns.drop (start + length))

end Ipv6

end FluentSql.Url
