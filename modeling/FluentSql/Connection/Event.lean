import FluentSql.Query.Builder

/-! What is reported while queries are built and run: clauses that were ignored, statements about to
run, and what happened to connections and transactions. An event has a level, a message and fields.
-/

namespace FluentSql

inductive EventLevel where
  | debug
  | info
  | warn
  deriving DecidableEq, Repr

/-- The part of the library that reports an event. -/
inductive EventSource where
  | builder
  | client
  | manager
  deriving DecidableEq, Repr

inductive Event where
  | clauseIgnored (clause : IgnoredClause)
  /-- A statement is about to be sent, with the parameters that it will bind. -/
  | executing (sql : String) (params : List Value)
  | connected (backend : String) (path : Option String)
  | disconnected (backend : String)
  | detached (backend : String)
  | queried (backend : String) (count : UInt64) (inTransaction : Bool)
  | begun (backend : String)
  | committed (backend : String)
  | rolledBack (backend : String)
  /-- The rollback of an open transaction on the way to a disconnect failed. -/
  | abandoned (backend : String) (error : DriverError)
  /-- The rollback after a commit that had failed failed as well. -/
  | stranded (backend : String) (error : DriverError)

namespace Event

def level : Event → EventLevel
  | clauseIgnored _ | abandoned _ _ | stranded _ _ => .warn
  | executing _ _ => .info
  | _ => .debug

def source : Event → EventSource
  | clauseIgnored _ => .builder
  | executing _ _ => .client
  | _ => .manager

def message : Event → String
  | clauseIgnored _ => "clause ignored: not applicable to this operation kind"
  | executing _ _ => "executing query"
  | connected _ _ => "connected"
  | disconnected _ => "disconnected"
  | detached _ => "detached from shared pool"
  | queried _ _ _ => "query executed"
  | begun _ => "transaction started"
  | committed _ => "transaction committed"
  | rolledBack _ => "transaction rolled back"
  | abandoned _ _ => "rollback of open transaction failed during disconnect"
  | stranded _ _ => "rollback after failed commit failed"

/-- The fields of an event beside its message that are text. The parameters of a statement are kept
as values. -/
def fields : Event → List (String × String)
  | clauseIgnored c => [("clause", c.clause.sql), ("kind", c.kind.sql)]
  | executing sql _ => [("sql", sql)]
  | connected b none => [("backend", b)]
  | connected b (some path) => [("backend", b), ("path", path)]
  | queried b n t => [("backend", b), ("count", toString n.toNat), ("in_transaction", toString t)]
  | abandoned b e | stranded b e => [("backend", b), ("error", e.message)]
  | disconnected b | detached b | begun b | committed b | rolledBack b => [("backend", b)]

end Event

end FluentSql
