import FluentSql.Config.Basic
import FluentSql.Connection.Manager

/-! The client: a query under construction, bound to a connection manager. Executing connects if
need be, compiles the query in the manager's style and sends it; the query stays as it is, so that a
retry sends the same. A transaction runs a body between begin and commit, and rolls back if the body
fails. -/

namespace FluentSql

structure Client (μ : Type) where
  manager : μ
  state : QueryState := {}
  options : Options := {}

namespace Client

variable {μ α : Type} (M : Manager μ)

/-- An operation of the manager alone. -/
def onManager (c : Client μ) (f : μ → Outcome μ α) : Outcome (Client μ) α :=
  (f c.manager).lift fun m => { c with manager := m }

def isConnected (c : Client μ) : Bool :=
  M.isConnected c.manager

def inTransaction (c : Client μ) : Bool :=
  M.inTransaction c.manager

def connect (c : Client μ) : Outcome (Client μ) Unit :=
  c.onManager M.connect

def disconnect (c : Client μ) : Outcome (Client μ) Unit :=
  c.onManager M.disconnect

def begin (c : Client μ) : Outcome (Client μ) Unit :=
  c.onManager M.begin

def commit (c : Client μ) : Outcome (Client μ) Unit :=
  c.onManager M.commit

def rollback (c : Client μ) : Outcome (Client μ) Unit :=
  c.onManager M.rollback

/-- A statement of its own, past the query under construction. -/
def query (sql : String) (params : List Value) (c : Client μ) : Outcome (Client μ) QueryResult :=
  c.onManager (M.query sql params)

/-- A call of the builder; its events tell of a clause that was ignored. -/
def call (k : Call) (c : Client μ) : Outcome (Client μ) Unit :=
  let r := c.state.call k
  ⟨r.result, { c with state := r.state }, (r.ignored.map Event.clauseIgnored).toList⟩

/-- The query in the manager's style. -/
def build (c : Client μ) : Except Error BuiltQuery :=
  c.state.build (M.placeholder c.manager)

def ensureConnected (c : Client μ) : Outcome (Client μ) Unit :=
  if c.isConnected M then ⟨.ok (), c, []⟩ else c.connect M

/-- Sends a compiled query; its failure is told as one of an execution. -/
def send (b : BuiltQuery) (c : Client μ) : Outcome (Client μ) QueryResult :=
  let o := c.query M b.sql b.params
  let o := { o with result := o.result.mapError .execution }
  if c.options.logging then o.after [.executing b.sql b.params] else o

/-- Connects if need be, and runs the query. -/
def executeResult (c : Client μ) : Outcome (Client μ) QueryResult :=
  (c.ensureConnected M).andThen fun _ c =>
    match c.build M with
    | .error e => ⟨.error e, c, []⟩
    | .ok b => c.send M b

/-- The same, for the rows alone. -/
def execute (c : Client μ) : Outcome (Client μ) (List Record) :=
  let o := c.executeResult M
  ⟨o.result.map QueryResult.rows, o.next, o.events⟩

end Client

/-! ### Transactions -/

/-- What begins and ends a transaction on states `ρ`. -/
structure Bracket (ρ : Type) where
  begin : ρ → Outcome ρ Unit
  commit : ρ → Outcome ρ Unit
  rollback : ρ → Outcome ρ Unit

namespace Bracket

variable {ρ α : Type} (b : Bracket ρ)

/-- Ends a transaction behind its body: commits the body's value, or rolls back and tells why the
body failed, and why the rollback did. -/
def finish (r : Except Error α) (s : ρ) : Outcome ρ α :=
  match r with
  | .ok a => (b.commit s).andThen fun _ s => ⟨.ok a, s, []⟩
  | .error e =>
    let o := b.rollback s
    match o.result with
    | .ok _ => ⟨.error e, o.next, o.events⟩
    | .error r => ⟨.error (.other s!"{e.message} (rollback failed: {r.message})"), o.next, o.events⟩

/-- Runs a body inside a transaction; where none can be begun, the body does not run. -/
def transaction (body : ρ → Outcome ρ α) (s : ρ) : Outcome ρ α :=
  (b.begin s).andThen fun _ s =>
    let o := body s
    (b.finish o.result o.next).after o.events

end Bracket

/-- Transactions of a client. -/
def Client.bracket {μ : Type} (M : Manager μ) : Bracket (Client μ) where
  begin := Client.begin M
  commit := Client.commit M
  rollback := Client.rollback M

end FluentSql
