import FluentSql.Connection.Event
import FluentSql.Query.Access

/-! Connection managers. A manager keeps at most one connection or pool and at most one transaction
on it. Each of its operations gives a result, the manager's next state and the events on the way;
whatever the result, the next state is the manager to go on with. -/

namespace FluentSql

/-- The answer to a statement, with the statement itself. -/
structure QueryResult where
  rows : List Record
  count : UInt64
  sql : String
  params : List Value

namespace QueryResult

def ofRaw (sql : String) (params : List Value) (raw : RawOutput) : QueryResult :=
  ⟨raw.rows, raw.count, sql, params⟩

def toJson (r : QueryResult) : Json :=
  .object [("rows", .array (r.rows.map Record.toJson)), ("count", .integer r.count.toNat),
    ("query", .string r.sql), ("parameters", .array (r.params.map Value.toJson))]

end QueryResult

/-- What an operation on a state leaves behind. -/
structure Outcome (σ α : Type) where
  result : Except Error α
  next : σ
  events : List Event := []

namespace Outcome

variable {σ τ α β : Type}

/-- The same outcome with events before it. -/
def after (events : List Event) (o : Outcome σ α) : Outcome σ α :=
  { o with events := events ++ o.events }

/-- Goes on from a success; an error ends it. -/
def andThen (o : Outcome σ α) (f : α → σ → Outcome σ β) : Outcome σ β :=
  match o.result with
  | .error e => ⟨.error e, o.next, o.events⟩
  | .ok a => (f a o.next).after o.events

/-- The same outcome on a larger state. -/
def lift (f : σ → τ) (o : Outcome σ α) : Outcome τ α :=
  ⟨o.result, f o.next, o.events⟩

end Outcome

/-- The operations of a connection manager with states `μ`. -/
structure Manager (μ : Type) where
  placeholder : μ → Placeholder
  isConnected : μ → Bool
  inTransaction : μ → Bool
  connect : μ → Outcome μ Unit
  disconnect : μ → Outcome μ Unit
  query : String → List Value → μ → Outcome μ QueryResult
  begin : μ → Outcome μ Unit
  commit : μ → Outcome μ Unit
  rollback : μ → Outcome μ Unit

end FluentSql
