import FluentSql.Connection.Pooled

/-! The manager of an embedded database. There is no server and no pool: the manager has one
connection and a flag for its transaction. A commit or a rollback that fails leaves the transaction
open, and the flag set. -/

namespace FluentSql

/-- The calls that a manager needs of an embedded engine, over worlds `σ`. -/
structure Engine (σ : Type) where
  name : String
  openPath : String → DriverCall σ Unit
  execute : String → List Value → DriverCall σ RawOutput
  begin : DriverCall σ Unit
  commit : DriverCall σ Unit
  rollback : DriverCall σ Unit
  close : DriverCall σ Unit

/-- A manager: where its database is, whether it has a connection, and whether a transaction is
open. -/
structure Embedded where
  path : String
  isConnected : Bool := false
  inTransaction : Bool := false
  deriving DecidableEq, Repr

namespace Embedded

/-- An overview of a manager. -/
def summary (m : Embedded) : String :=
  "SqliteConnectionManager \x7b path: " ++ Text.Quoted.quote m.path ++ ", conn: " ++
    (if m.isConnected then
      "Some(SqliteConnection \x7b row_channel_size: 50, cached_statements_capacity: 100 \x7d)"
    else "None") ++
    ", in_transaction: " ++ toString m.inTransaction ++ " \x7d"

variable {σ : Type}

/-- A manager with the world of its engine. -/
abbrev World (σ : Type) := Embedded × σ

variable (d : Engine σ)

def fail {α : Type} (operation : Operation) (e : DriverError) (m : Embedded) (w : σ) :
    Outcome (World σ) α :=
  ⟨.error (e.during d.name operation), (m, w), []⟩

/-- Opens the database unless it is open. -/
def connect (m : Embedded) (w : σ) : Outcome (World σ) Unit :=
  if m.isConnected then ⟨.ok (), (m, w), []⟩
  else
    match d.openPath m.path w with
    | (.error e, w) => fail d .connect e m w
    | (.ok _, w) => ⟨.ok (), ({ m with isConnected := true }, w), [.connected d.name (some m.path)]⟩

/-- Rolls an open transaction back; a rollback that fails is reported. -/
def abandon (m : Embedded) (w : σ) : σ × List Event :=
  if m.inTransaction then
    match d.rollback w with
    | (.ok _, w) => (w, [])
    | (.error e, w) => (w, [.abandoned d.name e])
  else (w, [])

/-- Ends a transaction and closes the connection, even where either fails. -/
def disconnect (m : Embedded) (w : σ) : Outcome (World σ) Unit :=
  if m.isConnected then
    let (w, events) := abandon d m w
    let m := { m with isConnected := false, inTransaction := false }
    match d.close w with
    | (.error e, w) => (fail d .disconnect e m w).after events
    | (.ok _, w) => ⟨.ok (), (m, w), events ++ [.disconnected d.name]⟩
  else ⟨.ok (), (m, w), []⟩

def query (sql : String) (params : List Value) (m : Embedded) (w : σ) :
    Outcome (World σ) QueryResult :=
  if m.isConnected then
    match d.execute sql params w with
    | (.error e, w) => fail d .query e m w
    | (.ok raw, w) =>
      ⟨.ok (.ofRaw sql params raw), (m, w), [.queried d.name raw.count m.inTransaction]⟩
  else ⟨.error (Pooled.notConnected d.name), (m, w), []⟩

/-- A statement that opens or ends a transaction; if it succeeds, the flag is set to `opens`. -/
def control (call : DriverCall σ Unit) (operation : Operation) (opens : Bool) (event : Event)
    (m : Embedded) (w : σ) : Outcome (World σ) Unit :=
  if m.isConnected then
    match call w with
    | (.error e, w) => fail d operation e m w
    | (.ok _, w) => ⟨.ok (), ({ m with inTransaction := opens }, w), [event]⟩
  else ⟨.error (Pooled.notConnected d.name), (m, w), []⟩

def begin (m : Embedded) (w : σ) : Outcome (World σ) Unit :=
  if m.inTransaction then ⟨.error (.state "transaction already in progress"), (m, w), []⟩
  else control d d.begin .beginTransaction true (.begun d.name) m w

def commit (m : Embedded) (w : σ) : Outcome (World σ) Unit :=
  if m.inTransaction then control d d.commit .commit false (.committed d.name) m w
  else ⟨.error Pooled.noTransaction, (m, w), []⟩

def rollback (m : Embedded) (w : σ) : Outcome (World σ) Unit :=
  if m.inTransaction then control d d.rollback .rollback false (.rolledBack d.name) m w
  else ⟨.error Pooled.noTransaction, (m, w), []⟩

/-- The manager of an engine, together with the engine's world. -/
def manager : Manager (World σ) where
  placeholder _ := .question
  isConnected m := m.1.isConnected
  inTransaction m := m.1.inTransaction
  connect m := connect d m.1 m.2
  disconnect m := disconnect d m.1 m.2
  query sql params m := query d sql params m.1 m.2
  begin m := begin d m.1 m.2
  commit m := commit d m.1 m.2
  rollback m := rollback d m.1 m.2

end Embedded

end FluentSql
