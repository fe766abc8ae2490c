import FluentSql.Sqlite.Token
import FluentSql.Value

/-! The statements that the embedded engine knows: rows of expressions, the rows of a table,
creating a table, inserting into it and emptying it, and the three that open and end a transaction.
-/

namespace FluentSql.Sqlite

inductive Expression where
  /-- A parameter, by its place. -/
  | param (index : Nat)
  | literal (v : Value)
  | column (name : String)
  deriving Inhabited

/-- What a column of a result shows, and its name if it is given one. -/
structure Term where
  expression : Expression
  /-- The expression as it was written. -/
  written : String
  label : Option String

structure ColumnDef where
  name : String
  type : String
  deriving DecidableEq, Repr

inductive Statement where
  | select (terms : List Term)
  | selectFrom (terms : List Term) (table : String)
  | selectAll (table : String)
  | values (rows : List (List Expression))
  | createTable (table : String) (columns : List ColumnDef)
  | insert (table : String) (columns : List String) (rows : List (List Expression))
  | delete (table : String)
  | begin
  | commit
  | rollback

namespace Statement

/-- A reader takes tokens off the front, and counts the parameters it has met. -/
abbrev Reader (α : Type) := StateT (Nat × List Token) Option α

namespace Reader

def peek : Reader (Option Token) := do
  return (← get).2.head?

def next : Reader Token := do
  match ← get with
  | (n, t :: ts) => set (n, ts); return t
  | (_, []) => failure

def keyword (k : String) : Reader Unit := do
  if (← next).keyword ≠ k then failure

def mark (c : Char) : Reader Unit := do
  if (← next) ≠ .mark c then failure

/-- Takes a mark or a keyword if it is next. -/
def taken (t : Token → Bool) : Reader Bool := do
  match ← peek with
  | some u => if t u then (do let _ ← next; return true) else return false
  | none => return false

def name : Reader String := do
  match ← next with
  | .word s => return s
  | _ => failure

/-- A parameter takes the next place. -/
def param : Reader Expression := do
  let (n, ts) ← get
  set (n + 1, ts)
  return .param n

/-- Items with commas between them, `fuel` at most. -/
def commas {α : Type} (item : Reader α) : (fuel : Nat) → Reader (List α)
  | 0 => failure
  | fuel + 1 => do
    let a ← item
    if ← taken (· == .mark ',') then return a :: (← commas item fuel) else return [a]

/-- As many items as there are tokens at most. -/
def list {α : Type} (item : Reader α) : Reader (List α) := do
  commas item ((← get).2.length + 1)

def parenthesized {α : Type} (r : Reader α) : Reader α := do
  mark '('
  let a ← r
  mark ')'
  return a

def expression : Reader Expression := do
  match ← next with
  | .mark '?' => param
  | .number n => return .literal (.int (.ofNat n))
  | .text s => return .literal (.text s)
  | .mark '-' =>
    match ← next with
    | .number n => return .literal (.int (.ofInt (-n)))
    | _ => failure
  | .word s => return if Text.upper s = "NULL" then .literal .null else .column s
  | _ => failure

def term : Reader Term := do
  let before := (← get).2
  let e ← expression
  let read := before.take (before.length - (← get).2.length)
  let written := String.join (read.map Token.spelling)
  if ← taken (·.keyword == "AS") then return ⟨e, written, some (← name)⟩
  else return ⟨e, written, none⟩

def select : Reader Statement := do
  if ← taken (· == .mark '*') then
    keyword "FROM"
    return .selectAll (← name)
  let terms ← list term
  if ← taken (·.keyword == "FROM") then return .selectFrom terms (← name)
  else return .select terms

def columnDef : Reader ColumnDef := do
  let column ← name
  match ← peek with
  | some (.word type) => do
    let _ ← next
    return ⟨column, type⟩
  | _ => return ⟨column, ""⟩

/-- The rows behind `VALUES`. -/
def rows : Reader (List (List Expression)) :=
  list (parenthesized (list expression))

def statement : Reader Statement := do
  match (← next).keyword with
  | "SELECT" => select
  | "VALUES" => return .values (← rows)
  | "CREATE" => do
    keyword "TABLE"
    let table ← name
    return .createTable table (← parenthesized (list columnDef))
  | "INSERT" => do
    keyword "INTO"
    let table ← name
    let columns ← parenthesized (list name)
    keyword "VALUES"
    return .insert table columns (← rows)
  | "DELETE" => do
    keyword "FROM"
    return .delete (← name)
  | "BEGIN" => do
    let _ ← taken (·.keyword == "TRANSACTION")
    return .begin
  | "COMMIT" => do
    let _ ← taken (·.keyword == "TRANSACTION")
    return .commit
  | "ROLLBACK" => do
    let _ ← taken (·.keyword == "TRANSACTION")
    return .rollback
  | _ => failure

end Reader

/-- A statement, and the place of the next parameter if it begins with this one. -/
def ofTokens? (place : Nat) (tokens : List Token) : Option (Statement × Nat) := do
  let (s, (place, rest)) ← Reader.statement.run (place, tokens)
  if rest = [] then some (s, place) else none

end Statement

end FluentSql.Sqlite
