import FluentSql.Query.Condition
import FluentSql.Record

/-! The state of a query: a table and one statement on it. Each kind of statement carries the
clauses that apply to it and no others. -/

namespace FluentSql

inductive StatementKind where
  | select
  | insert
  | update
  | delete
  deriving DecidableEq, Repr

namespace StatementKind

def sql : StatementKind → String
  | .select => "SELECT"
  | .insert => "INSERT"
  | .update => "UPDATE"
  | .delete => "DELETE"

def ofText (s : String) : Except Error StatementKind :=
  let spelling := Text.upper (Text.trim s)
  match [select, insert, update, delete].find? (fun k => k.sql == spelling) with
  | some k => .ok k
  | none => .error (.unsupported s!"unknown operation kind '{s}'")

end StatementKind

structure Select where
  columns : List String := ["*"]
  joins : List Join := []
  conditions : List Condition := []
  groupBy : List String := []
  having : List Condition := []
  orderBy : List SortTerm := []
  limit : Option UInt64 := none
  offset : Option UInt64 := none
  deriving Inhabited

/-- Columns, and the values of all records one after the other. -/
structure Insert where
  columns : List String := []
  values : List Value := []
  deriving Inhabited

/-- The number of records, if the values are whole records. -/
def Insert.recordCount? (i : Insert) : Option Nat :=
  if i.columns.isEmpty ∨ i.values.length % i.columns.length ≠ 0 then none
  else some (i.values.length / i.columns.length)

structure Update where
  payload : Record := .empty
  conditions : List Condition := []
  deriving Inhabited

structure Delete where
  conditions : List Condition := []
  deriving Inhabited

inductive Statement where
  | select (s : Select)
  | insert (i : Insert)
  | update (u : Update)
  | delete (d : Delete)

namespace Statement

instance : Inhabited Statement := ⟨.select {}⟩

def kind : Statement → StatementKind
  | .select _ => .select
  | .insert _ => .insert
  | .update _ => .update
  | .delete _ => .delete

/-- The conditions of the WHERE clause, where there can be one. -/
def conditions? : Statement → Option (List Condition)
  | .select s => some s.conditions
  | .insert _ => none
  | .update u => some u.conditions
  | .delete d => some d.conditions

end Statement

structure QueryState where
  table : String := ""
  statement : Statement := .select {}
  deriving Inhabited

namespace QueryState

/-- A query of all columns of a table. -/
def forTable (table : String) : QueryState := { table }

/-- The same table under another statement. -/
def restart (q : QueryState) (statement : Statement) : QueryState := { q with statement }

def kind (q : QueryState) : StatementKind :=
  q.statement.kind

end QueryState

end FluentSql
