import FluentSql.Connection.Manager
import FluentSql.Text.Quoted

/-! Managers over a pool of connections. A driver opens and closes pools, takes handles out of them
and gives them back, and runs statements on handles; all that its calls change is a world `σ`, which
several managers may share. A manager takes a handle for each statement and gives it back behind it.
A transaction keeps its handle from begin to commit or rollback, and all statements in between run
on it. A pool that was handed to the manager is not the manager's to close. -/

namespace FluentSql

/-- A call of a driver: it succeeds or fails, and changes the world. -/
abbrev DriverCall (σ α : Type) := σ → Except DriverError α × σ

/-- The calls that a manager needs of a client library, over worlds `σ`, pools `P` and handles `H`.
-/
structure PoolDriver (σ P H : Type) where
  name : String
  placeholder : Placeholder
  openPool : DriverCall σ P
  acquire : P → DriverCall σ H
  execute : H → String → List Value → DriverCall σ RawOutput
  begin : H → DriverCall σ Unit
  commit : H → DriverCall σ Unit
  rollback : H → DriverCall σ Unit
  /-- Gives a handle back; a failure would change nothing. -/
  release : H → σ → σ
  close : P → DriverCall σ Unit

/-- A manager: its pool, whether it opened the pool itself, and the handle of its transaction. -/
structure Pooled (P H : Type) where
  pool : Option P := none
  ownsPool : Bool := true
  transaction : Option H := none

namespace Pooled

variable {σ P H : Type}

/-- A manager of a pool that is shared with others. -/
def ofPool (pool : P) : Pooled P H :=
  { pool := some pool, ownsPool := false }

def isConnected (m : Pooled P H) : Bool :=
  m.pool.isSome

def inTransaction (m : Pooled P H) : Bool :=
  m.transaction.isSome

/-- An overview of a manager of a driver of this name. -/
def summary (name : String) (m : Pooled P H) : String :=
  "PooledConnectionManager \x7b backend: " ++ Text.Quoted.quote name ++
    ", connected: " ++ toString m.isConnected ++ ", owns_pool: " ++ toString m.ownsPool ++
    ", in_transaction: " ++ toString m.inTransaction ++ " \x7d"

def notConnected (name : String) : Error :=
  .connection s!"no {name} connection established"

def noTransaction : Error :=
  .state "no active transaction"

/-- A manager with the world of its driver. -/
abbrev World (σ P H : Type) := Pooled P H × σ

variable (d : PoolDriver σ P H)

/-- Nothing to do. -/
def idle (m : Pooled P H) (w : σ) : Outcome (World σ P H) Unit :=
  ⟨.ok (), (m, w), []⟩

def fail {α : Type} (operation : Operation) (e : DriverError) (m : Pooled P H) (w : σ)
    (events : List Event) : Outcome (World σ P H) α :=
  ⟨.error (e.during d.name operation), (m, w), events⟩

/-- Opens a pool unless there is one. -/
def connect (m : Pooled P H) (w : σ) : Outcome (World σ P H) Unit :=
  match m.pool with
  | some _ => idle m w
  | none =>
    match d.openPool w with
    | (.error e, w) => fail d .connect e m w []
    | (.ok pool, w) =>
      ⟨.ok (), ({ m with pool := some pool, ownsPool := true }, w), [.connected d.name none]⟩

/-- Rolls an open transaction back and gives its handle back; a rollback that fails is reported. -/
def abandon (m : Pooled P H) (w : σ) : World σ P H × List Event :=
  match m.transaction with
  | none => ((m, w), [])
  | some h =>
    let m := { m with transaction := none }
    match d.rollback h w with
    | (.ok _, w) => ((m, d.release h w), [])
    | (.error e, w) => ((m, d.release h w), [.abandoned d.name e])

/-- Lets the pool go, and closes it if it is the manager's own. -/
def leave (m : Pooled P H) (w : σ) : Outcome (World σ P H) Unit :=
  match m.pool with
  | none => idle m w
  | some pool =>
    let m := { m with pool := none }
    if m.ownsPool then
      match d.close pool w with
      | (.error e, w) => fail d .disconnect e m w []
      | (.ok _, w) => ⟨.ok (), (m, w), [.disconnected d.name]⟩
    else ⟨.ok (), (m, w), [.detached d.name]⟩

/-- Ends a transaction and lets the pool go, even where either fails. -/
def disconnect (m : Pooled P H) (w : σ) : Outcome (World σ P H) Unit :=
  let ((m, w), events) := abandon d m w
  (leave d m w).after events

/-- Runs a statement on the handle of the transaction, or on one taken for it alone. -/
def run (m : Pooled P H) (pool : P) (sql : String) (params : List Value) : DriverCall σ RawOutput :=
  fun w =>
    match m.transaction with
    | some h => d.execute h sql params w
    | none =>
      match d.acquire pool w with
      | (.error e, w) => (.error e, w)
      | (.ok h, w) =>
        let (output, w) := d.execute h sql params w
        (output, d.release h w)

def query (sql : String) (params : List Value) (m : Pooled P H) (w : σ) :
    Outcome (World σ P H) QueryResult :=
  match m.pool with
  | none => ⟨.error (notConnected d.name), (m, w), []⟩
  | some pool =>
    match run d m pool sql params w with
    | (.error e, w) => fail d .query e m w []
    | (.ok raw, w) =>
      ⟨.ok (.ofRaw sql params raw), (m, w), [.queried d.name raw.count m.inTransaction]⟩

/-- Takes a handle and begins a transaction on it; where that fails the handle goes back. -/
def begin (m : Pooled P H) (w : σ) : Outcome (World σ P H) Unit :=
  match m.transaction, m.pool with
  | some _, _ => ⟨.error (.state "transaction already in progress"), (m, w), []⟩
  | none, none => ⟨.error (notConnected d.name), (m, w), []⟩
  | none, some pool =>
    match d.acquire pool w with
    | (.error e, w) => fail d .beginTransaction e m w []
    | (.ok h, w) =>
      match d.begin h w with
      | (.error e, w) => fail d .beginTransaction e m (d.release h w) []
      | (.ok _, w) => ⟨.ok (), ({ m with transaction := some h }, w), [.begun d.name]⟩

/-- Commits the transaction and gives its handle back. After a commit that failed the transaction is
rolled back first, so that no half of it stays on the handle. -/
def commit (m : Pooled P H) (w : σ) : Outcome (World σ P H) Unit :=
  match m.transaction with
  | none => ⟨.error noTransaction, (m, w), []⟩
  | some h =>
    let m := { m with transaction := none }
    match d.commit h w with
    | (.ok _, w) => ⟨.ok (), (m, d.release h w), [.committed d.name]⟩
    | (.error e, w) =>
      match d.rollback h w with
      | (.ok _, w) => fail d .commit e m (d.release h w) []
      | (.error r, w) => fail d .commit e m (d.release h w) [.stranded d.name r]

/-- Rolls the transaction back and gives its handle back, even where that fails. -/
def rollback (m : Pooled P H) (w : σ) : Outcome (World σ P H) Unit :=
  match m.transaction with
  | none => ⟨.error noTransaction, (m, w), []⟩
  | some h =>
    let m := { m with transaction := none }
    match d.rollback h w with
    | (.ok _, w) => ⟨.ok (), (m, d.release h w), [.rolledBack d.name]⟩
    | (.error e, w) => fail d .rollback e m (d.release h w) []

/-- The manager of a driver, together with the driver's world. -/
def manager : Manager (World σ P H) where
  placeholder _ := d.placeholder
  isConnected m := m.1.isConnected
  inTransaction m := m.1.inTransaction
  connect m := connect d m.1 m.2
  disconnect m := disconnect d m.1 m.2
  query sql params m := query d sql params m.1 m.2
  begin m := begin d m.1 m.2
  commit m := commit d m.1 m.2
  rollback m := rollback d m.1 m.2

end Pooled

end FluentSql
