import FluentSql.Record
import FluentSql.Text.Blank
import FluentSql.Text.Utf8

/-! Rows of a result. Each column comes with a name, the type that it was declared with and a cell
of a storage class of its own. A cell is read by its storage class; the declared type only tells
truth values from other whole numbers. -/

namespace FluentSql.Sqlite

/-- A cell, by its storage class. The octets of a text may be no UTF-8. -/
inductive Cell where
  | null
  | integer (n : Int64)
  | real (x : Double)
  | text (octets : List UInt8)
  | blob (octets : List UInt8)

/-- The cell that a value is kept in; lists have none. -/
def Cell.ofValue : Value → Cell
  | .null | .list _ => .null
  | .bool b => .integer (if b then 1 else 0)
  | .int n => .integer n
  | .float x => .real x
  | .text s => .text (Text.Utf8.encode s)
  | .bytes bs => .blob bs

/-- A column of a row; an expression has no declared type. -/
structure Column where
  name : String
  type : String := ""
  cell : Cell

abbrev Row := List Column

/-- A text that cannot be read, by the place of its column. -/
structure CellError where
  index : Nat
  error : Text.Utf8Error
  deriving DecidableEq, Repr

def CellError.message (e : CellError) : String :=
  s!"error occurred while decoding column {e.index}: " ++ e.error.message

/-- Reads the cell of a column that stands at `index`. -/
def decodeColumn (c : Column) (index : Nat) : Except CellError Value :=
  match c.cell with
  | .null => .ok .null
  | .integer n => .ok (if Text.upper c.type = "BOOLEAN" then .bool (n ≠ 0) else .int n)
  | .real x => .ok (.float x)
  | .text bs => (Value.text <$> Text.Utf8.decode bs).mapError (⟨index, ·⟩)
  | .blob bs => .ok (.bytes bs)

/-- The columns of a row, each with what reading its cell gives. -/
def readings (row : Row) : List (String × Except CellError Value) :=
  row.zipIdx.map fun (c, i) => (c.name, decodeColumn c i)

/-- Reads a row; of columns with one name the last counts. -/
def decodeRow (row : Row) : Except CellError Record :=
  Record.ofReadings (readings row)

end FluentSql.Sqlite
