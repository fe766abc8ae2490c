import FluentSql.Number.Integer
import FluentSql.Text.Blank

/-! The tokens of an SQL text: words, whole numbers, quoted texts and single marks. Blanks and
comments stand between tokens and are none. -/

namespace FluentSql.Sqlite

inductive Token where
  | word (s : String)
  | number (n : Nat)
  | text (s : String)
  | mark (c : Char)
  deriving DecidableEq, Repr

namespace Token

/-- A word in upper case, as keywords are compared; empty for the others. -/
def keyword : Token → String
  | word s => Text.upper s
  | _ => ""

/-- A token as it was written. -/
def spelling : Token → String
  | word s => s
  | number n => toString n
  | text s => "'" ++ s ++ "'"
  | mark c => c.toString

def isWordChar (c : Char) : Bool :=
  c.isAlphanum || c == '_' || 0x7F < c.toNat

/-- The text up to the next quote that stands alone, and what follows it; two quotes stand for
one. -/
def quoted (q : Char) : List Char → Option (List Char × List Char)
  | [] => none
  | [c] => if c = q then some ([], []) else none
  | c :: d :: cs =>
    if c = q then
      if d = q then (fun (s, r) => (q :: s, r)) <$> quoted q cs else some ([], d :: cs)
    else (fun (s, r) => (c :: s, r)) <$> quoted q (d :: cs)

/-- The text behind a comment that ends the line. -/
def afterLine (cs : List Char) : List Char :=
  cs.dropWhile (· != '\n')

/-- The text behind a comment in a block; an open one goes to the end. -/
def afterBlock : List Char → List Char
  | [] => []
  | '*' :: '/' :: cs => cs
  | _ :: cs => afterBlock cs

/-- Reads tokens; every call takes a character at least. -/
def read (fuel : Nat) (cs : List Char) : Option (List Token) :=
  match fuel, cs with
  | _, [] => some []
  | 0, _ => none
  | fuel + 1, '-' :: '-' :: cs => read fuel (afterLine cs)
  | fuel + 1, '/' :: '*' :: cs => read fuel (afterBlock cs)
  | fuel + 1, '\'' :: cs => do
    let (s, cs) ← quoted '\'' cs
    return text (String.ofList s) :: (← read fuel cs)
  | fuel + 1, '"' :: cs => do
    let (s, cs) ← quoted '"' cs
    return word (String.ofList s) :: (← read fuel cs)
  | fuel + 1, c :: cs =>
    if Text.isBlank c then read fuel cs
    else if isDigit c then do
      let ds := (c :: cs).takeWhile isDigit
      return number (natOfDigits 0 ds) :: (← read fuel ((c :: cs).drop ds.length))
    else if isWordChar c then do
      let s := (c :: cs).takeWhile isWordChar
      return word (String.ofList s) :: (← read fuel ((c :: cs).drop s.length))
    else do return mark c :: (← read fuel cs)

/-- The tokens of a text; nothing if a quote stays open. -/
def ofSql? (sql : String) : Option (List Token) :=
  read (sql.length + 1) sql.toList

end Token

end FluentSql.Sqlite
