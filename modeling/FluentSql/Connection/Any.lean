import FluentSql.Connection.Embedded
import FluentSql.MySql.Driver
import FluentSql.Postgres.Driver
import FluentSql.Session
import FluentSql.Sqlite.Engine

/-! The manager of whatever backend a configuration names. What stands behind an embedded database
can be any engine; sessions run on the one in memory. -/

namespace FluentSql

/-- A manager with the world of its backend, which is `τ` for an embedded engine. -/
inductive AnyManager (τ : Type := Sqlite.Database) where
  | mysql (m : Pooled.World MySql.Server Unit Unit)
  | postgres (m : Pooled.World Postgres.Server Unit Unit)
  | sqlite (m : Embedded.World τ)

namespace AnyManager

variable {τ α : Type}

/-- A manager that has not connected. An embedded database is the configuration's, in the world that
its engine starts from. -/
def start (w : τ) (c : Config) : AnyManager τ :=
  match c.backend with
  | .mysql => .mysql ({}, {})
  | .postgres => .postgres ({}, {})
  | .sqlite => .sqlite ({ path := c.database }, w)

/-- The same, on the engine in memory. -/
def ofConfig : Config → AnyManager :=
  start {}

def backend : AnyManager τ → Backend
  | .mysql _ => .mysql
  | .postgres _ => .postgres
  | .sqlite _ => .sqlite

section Manager

variable (e : Engine τ)

/-- What every manager can be asked. -/
def ask (f : {μ : Type} → Manager μ → μ → α) : AnyManager τ → α
  | .mysql m => f (Pooled.manager MySql.driver) m
  | .postgres m => f (Pooled.manager Postgres.driver) m
  | .sqlite m => f (Embedded.manager e) m

/-- What every manager can do. -/
def act (f : {μ : Type} → Manager μ → μ → Outcome μ α) :
    AnyManager τ → Outcome (AnyManager τ) α
  | .mysql m => (f (Pooled.manager MySql.driver) m).lift .mysql
  | .postgres m => (f (Pooled.manager Postgres.driver) m).lift .postgres
  | .sqlite m => (f (Embedded.manager e) m).lift .sqlite

def manager : Manager (AnyManager τ) where
  placeholder := ask e Manager.placeholder
  isConnected := ask e Manager.isConnected
  inTransaction := ask e Manager.inTransaction
  connect := act e Manager.connect
  disconnect := act e Manager.disconnect
  query sql params := act e fun M m => M.query sql params m
  begin := act e Manager.begin
  commit := act e Manager.commit
  rollback := act e Manager.rollback

end Manager

/-- An overview of the manager, under the title of its backend. -/
def summary : AnyManager τ → String
  | .mysql m => "MySql(" ++ m.1.summary MySql.driver.name ++ ")"
  | .postgres m => "Postgres(" ++ m.1.summary Postgres.driver.name ++ ")"
  | .sqlite m => "Sqlite(" ++ m.1.summary ++ ")"

/-- What the server has seen; an embedded database keeps no log. -/
def log : AnyManager τ → List String
  | .mysql m => m.2.log
  | .postgres m => m.2.log
  | .sqlite _ => []

/-- Sessions on a backend, the embedded one in memory; nobody is told to fail. -/
def host (γ : Type) : Session.Host AnyManager γ where
  manager := manager Sqlite.engine
  summary := summary
  trace := log
  command _ m := m

end AnyManager

end FluentSql
