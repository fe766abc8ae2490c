import FluentSql.Error
import FluentSql.Record
import FluentSql.Text.Blank

/-! Whether a statement reads rows or writes them, told from its first keyword. White space,
comments and opening parentheses before the keyword do not count. -/

namespace FluentSql

inductive Access where
  | read
  | write
  deriving DecidableEq, Repr

namespace Access

/-- The text behind the next line break; nothing without one. -/
def afterLine : List Char → List Char
  | [] => []
  | '\n' :: cs => cs
  | _ :: cs => afterLine cs

/-- The text behind the next `*/`; nothing without one. -/
def afterComment : List Char → List Char
  | [] => []
  | '*' :: '/' :: cs => cs
  | _ :: cs => afterComment cs

theorem length_afterLine_le (cs : List Char) : (afterLine cs).length ≤ cs.length := by
  fun_induction afterLine cs <;> grind

theorem length_afterComment_le (cs : List Char) : (afterComment cs).length ≤ cs.length := by
  fun_induction afterComment cs <;> grind

/-- The text from its first keyword on. The end of a block comment is looked for from its first
character on, so that `/*/` is a whole comment. -/
def strip (cs : List Char) : List Char :=
  match _h : Text.trimStart cs with
  | '-' :: '-' :: r => strip (afterLine r)
  | '/' :: '*' :: r => strip (afterComment ('*' :: r))
  | '(' :: r => strip r
  | s => s
termination_by cs.length
decreasing_by
  all_goals
    have hl := Text.length_trimStart_le cs
    rw [_h] at hl
    simp only [List.length_cons] at hl
  · have := length_afterLine_le r; omega
  · have := length_afterComment_le ('*' :: r); simp only [List.length_cons] at this; omega
  · omega

/-- The keywords that begin a statement with rows. -/
def keywords : List String :=
  ["SELECT", "WITH", "SHOW", "EXPLAIN", "PRAGMA", "VALUES", "DESCRIBE"]

/-- A character that goes on with a keyword. -/
def isNameChar (c : Char) : Bool :=
  c.isAlphanum || c == '_'

/-- Whether a text begins with a word, letters of either case, and not with a longer one. -/
def startsWith (word s : List Char) : Bool :=
  match Text.dropCaseless? word s with
  | some (c :: _) => !isNameChar c
  | some [] => true
  | none => false

def ofSql (sql : String) : Access :=
  let s := strip sql.toList
  if keywords.any fun k => startsWith k.toList s then .read else .write

end Access

/-- What a driver has to say about a statement: its rows, and their number or that of the rows
affected. -/
structure RawOutput where
  rows : List Record
  count : UInt64

namespace RawOutput

def read (rows : List Record) : RawOutput :=
  ⟨rows, UInt64.ofNat rows.length⟩

def write (affected : UInt64) : RawOutput :=
  ⟨[], affected⟩

/-- Reads the rows of a result one after the other; the first that cannot be read ends it. -/
def ofRows {ρ ε : Type} (decode : ρ → Except ε Record) (message : ε → String) (rows : List ρ) :
    Except DriverError RawOutput :=
  match rows.mapM decode with
  | .ok rows => .ok (.read rows)
  | .error e => .error ⟨message e⟩

end RawOutput

end FluentSql
