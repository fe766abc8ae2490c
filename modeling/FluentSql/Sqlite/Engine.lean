import FluentSql.Connection.Embedded
import FluentSql.Sqlite.Row
import FluentSql.Sqlite.Statement

/-! An embedded database in memory. It has tables of typed columns and at most one open transaction,
which keeps the tables as they were. A column takes values by its affinity: whole numbers and
doubles are exchanged for one another where the column's kind asks for it and no digit is lost. What
a column declared `BOOLEAN` holds is read as a truth value. -/

namespace FluentSql.Sqlite

structure Table where
  name : String
  columns : List ColumnDef
  rows : List (List Value)
  deriving Inhabited

structure Database where
  tables : List Table := []
  /-- The tables as they were when the open transaction began. -/
  saved : Option (List Table) := none
  /-- The rows that the last insertion or deletion changed. -/
  changes : Nat := 0

/-! ### Failures -/

/-- A failure with the engine's code for it. -/
def failure (code : Nat) (message : String) : DriverError :=
  ⟨s!"error returned from database: (code: {code}) {message}"⟩

def sameName (a b : String) : Bool :=
  Text.lower a == Text.lower b

def Database.find (db : Database) (name : String) : Except DriverError Table :=
  match db.tables.find? (fun t => sameName t.name name) with
  | some t => .ok t
  | none => .error (failure 1 ("no such table: " ++ name))

/-! ### Cells -/

/-- The value that stands for a parameter; lists have none. -/
def bind : Value → Except DriverError Value
  | .list _ => .error ⟨"list values cannot be bound as a single parameter"⟩
  | .bool b => .ok (.int (if b then 1 else 0))
  | .float x => .ok (match x.parts with
    | .nan _ => .null
    | _ => .float x)
  | v => .ok v

/-- The whole number that a double is, if it is one and fits. -/
def wholeOf? (x : Double) : Option Int64 := do
  let .finite m e := x.parts | none
  let n := if 0 ≤ e then m * Nat.pow 2 e.toNat else m / Nat.pow 2 (-e).toNat
  let n : Int := if x.negative then -n else n
  if Int64.minValue.toInt < n ∧ n ≤ Int64.maxValue.toInt ∧ (Double.ofInt n = x ∨ m = 0) then
    some (.ofInt n)
  else none

/-- A value as a column of a declared type keeps it. -/
def store (type : String) (v : Value) : Value :=
  match Text.upper type, v with
  | "REAL", .int n => .float (.ofInt n.toInt)
  | "REAL", .float x => .float (if x.parts = .finite 0 Binary.double.least then .zero false else x)
  | "INTEGER", .float x => ((wholeOf? x).map Value.int).getD v
  | "BOOLEAN", .float x => ((wholeOf? x).map Value.int).getD v
  | "TEXT", .int n => .text (toString n.toInt)
  | _, _ => v

/-! ### Expressions -/

/-- The place of a column in a table. -/
def position? (columns : List ColumnDef) (name : String) : Option Nat :=
  columns.findIdx? fun c => sameName c.name name

/-- The value of an expression in a row; a parameter that is not given is null. -/
def Expression.eval (params : List Value) (columns : List ColumnDef) (row : List Value) :
    Expression → Except DriverError Value
  | .param i => .ok (params[i]?.getD .null)
  | .literal v => .ok v
  | .column name =>
    match position? columns name with
    | some i => .ok (row[i]?.getD .null)
    | none => .error (failure 1 ("no such column: " ++ name))

/-- The declared column that an expression shows. -/
def Expression.column? (columns : List ColumnDef) : Expression → Option ColumnDef
  | .column name => columns.find? fun c => sameName c.name name
  | _ => none

def Term.name (columns : List ColumnDef) (t : Term) : String :=
  t.label.getD (((t.expression.column? columns).map ColumnDef.name).getD t.written)

def Term.eval (params : List Value) (columns : List ColumnDef) (row : List Value) (t : Term) :
    Except DriverError Column := do
  let v ← t.expression.eval params columns row
  let type := ((t.expression.column? columns).map ColumnDef.type).getD ""
  return ⟨t.name columns, type, .ofValue v⟩

/-- The rows that terms show of rows. -/
def project (params : List Value) (columns : List ColumnDef) (terms : List Term)
    (rows : List (List Value)) : Except DriverError (List Row) := do
  let _ ← terms.mapM (Term.eval params columns [])
  rows.mapM fun row => terms.mapM (Term.eval params columns row)

def ColumnDef.asTerm (c : ColumnDef) : Term :=
  ⟨.column c.name, c.name, none⟩

/-! ### Statements -/

/-- The rows of `VALUES`, under numbered names. -/
def valueRows (params : List Value) (rows : List (List Expression)) :
    Except DriverError (List Row) :=
  rows.mapM fun row => do
    let vs ← row.mapM (Expression.eval params [] [])
    return vs.zipIdx.map fun (v, i) =>
      { name := "column" ++ toString (i + 1), cell := .ofValue v }

/-- A full row of a table, given values for some of its columns. -/
def fullRow (columns : List ColumnDef) (places : List Nat) (vs : List Value) : List Value :=
  columns.zipIdx.map fun (c, i) =>
    match places.idxOf? i with
    | some k => store c.type (vs[k]?.getD .null)
    | none => .null

def placeOf (t : Table) (name : String) : Except DriverError Nat :=
  match position? t.columns name with
  | some i => .ok i
  | none => .error (failure 1 s!"table {t.name} has no column named {name}")

def insertedRows (params : List Value) (t : Table) (columns : List String)
    (rows : List (List Expression)) : Except DriverError (List (List Value)) := do
  let places ← columns.mapM (placeOf t)
  rows.mapM fun row => do
    if row.length ≠ columns.length then
      throw (failure 1 s!"{row.length} values for {columns.length} columns")
    let vs ← row.mapM (Expression.eval params [] [])
    return fullRow t.columns places vs

namespace Database

/-- Other rows in a table. -/
def setRows (db : Database) (t : Table) (rows : List (List Value)) (changes : Nat) : Database :=
  { db with
    tables := db.tables.map fun u => if sameName u.name t.name then { u with rows } else u
    changes }

/-- Opens a transaction. -/
def open? (db : Database) : Except DriverError Database :=
  match db.saved with
  | some _ => .error (failure 1 "cannot start a transaction within a transaction")
  | none => .ok { db with saved := some db.tables }

def commit? (db : Database) : Except DriverError Database :=
  match db.saved with
  | some _ => .ok { db with saved := none }
  | none => .error (failure 1 "cannot commit - no transaction is active")

def rollback? (db : Database) : Except DriverError Database :=
  match db.saved with
  | some tables => .ok { db with tables, saved := none }
  | none => .error (failure 1 "cannot rollback - no transaction is active")

/-- Runs a statement: its rows, and the database behind it. -/
def run (db : Database) (params : List Value) :
    Statement → Except DriverError (List Row × Database)
  | .select terms => do return (← project params [] terms [[]], db)
  | .selectFrom terms name => do
    let t ← db.find name
    return (← project params t.columns terms t.rows, db)
  | .selectAll name => do
    let t ← db.find name
    return (← project params t.columns (t.columns.map ColumnDef.asTerm) t.rows, db)
  | .values rows => do return (← valueRows params rows, db)
  | .createTable name columns =>
    match db.find name with
    | .ok _ => .error (failure 1 s!"table {name} already exists")
    | .error _ => .ok ([], { db with tables := db.tables ++ [⟨name, columns, []⟩] })
  | .insert name columns rows => do
    let t ← db.find name
    let new ← insertedRows params t columns rows
    return ([], db.setRows t (t.rows ++ new) new.length)
  | .delete name => do
    let t ← db.find name
    return ([], db.setRows t [] t.rows.length)
  | .begin => do return ([], ← db.open?)
  | .commit => do return ([], ← db.commit?)
  | .rollback => do return ([], ← db.rollback?)

end Database

/-- What is wrong with a text that is no statement. -/
def syntaxFailure : List Token → DriverError
  | [] => failure 1 "incomplete input"
  | t :: _ => failure 1 s!"near \"{t.spelling}\": syntax error"

/-- Runs statements one after the other, with the place of the first parameter. All their rows
count, and all rows that they touched. What was done before a failure stays. -/
def runAll (params : List Value) (place : Nat) :
    List (List Token) → DriverCall Database (List Row × Nat)
  | [], db => (.ok ([], 0), db)
  | tokens :: rest, db =>
    match Statement.ofTokens? place tokens with
    | none => (.error (syntaxFailure tokens), db)
    | some (s, place) =>
      match db.run params s with
      | .error e => (.error e, db)
      | .ok (rows, db) =>
        let (r, next) := runAll params place rest db
        (r.map fun (more, touched) => (rows ++ more, db.changes + touched), next)

/-- Runs an SQL text, whose statements have semicolons between them. A text without a statement does
nothing and touches nothing. -/
def runSql (sql : String) (params : List Value) :
    DriverCall Database (List Row × Nat) := fun db =>
  match Token.ofSql? sql with
  | none => (.error (failure 1 "unrecognized token"), db)
  | some tokens =>
    runAll params 0 ((Text.pieces (· == .mark ';') tokens).filter (!·.isEmpty)) db

/-- What rows and the number of rows touched come to, by whether the statement reads. -/
def output : Access → List Row × Nat → Except DriverError RawOutput
  | .read, (rows, _) => RawOutput.ofRows decodeRow CellError.message rows
  | .write, (_, touched) => .ok (.write (UInt64.ofNat touched))

/-- How a library runs an SQL text with parameters that are bound: to rows, and the number of rows
touched. -/
abbrev Runs (σ : Type) := String → List Value → DriverCall σ (List Row × Nat)

/-- Binds all parameters before anything is run, and reads the rows behind it. -/
def executeBy {σ : Type} (runs : Runs σ) (sql : String) (params : List Value) :
    DriverCall σ RawOutput := fun w =>
  match params.mapM bind with
  | .error e => (.error e, w)
  | .ok params =>
    let (r, w) := runs sql params w
    (r.bind (output (Access.ofSql sql)), w)

def execute : String → List Value → DriverCall Database RawOutput :=
  executeBy runSql

/-! ### The engine -/

/-- A call that changes the database only if it succeeds. -/
def control (f : Database → Except DriverError Database) : DriverCall Database Unit := fun db =>
  match f db with
  | .ok db => (.ok (), db)
  | .error e => (.error e, db)

/-- The paths that stand for a database in memory. -/
def inMemory (path : String) : Bool :=
  path == ":memory:" || path == "sqlite::memory:" || path == "sqlite://:memory:"

/-- Opens a database in memory, a new one every time; there is no other. -/
def openPath (path : String) : Except DriverError Database :=
  if path.isEmpty then .error ⟨"no database path configured"⟩
  else if inMemory path then .ok {}
  else .error (failure 14 "unable to open database file")

def engine : Engine Database where
  name := "sqlite"
  openPath path := control fun _ => openPath path
  execute := execute
  begin := control Database.open?
  commit := control Database.commit?
  rollback := control Database.rollback?
  close := control fun _ => .ok {}

end FluentSql.Sqlite
