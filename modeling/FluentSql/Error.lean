/-! What can go wrong, and the words for it. An error of the database carries the backend and the
operation that met it; an error while a statement ran wraps the one that stopped it. -/

namespace FluentSql

/-- The operations of a connection manager. -/
inductive Operation where
  | connect
  | query
  | beginTransaction
  | commit
  | rollback
  | disconnect
  deriving DecidableEq, Repr

def Operation.tag : Operation → String
  | .connect => "connect"
  | .query => "query"
  | .beginTransaction => "begin_transaction"
  | .commit => "commit"
  | .rollback => "rollback"
  | .disconnect => "disconnect"

inductive Error where
  | validation (message : String)
  | state (message : String)
  | connection (message : String)
  | database (backend : String) (operation : Operation) (message : String)
  | unsupported (message : String)
  | execution (inner : Error)
  | config (message : String)
  | other (message : String)
  deriving DecidableEq, Repr, Inhabited

namespace Error

def message : Error → String
  | .validation m => "Validation error: " ++ m
  | .state m => "State error: " ++ m
  | .connection m => "Connection error: " ++ m
  | .database b o m => b ++ " " ++ o.tag ++ " failed: " ++ m
  | .unsupported m => "Unsupported operation: " ++ m
  | .execution e => "Query execution failed: " ++ e.message
  | .config m => "Configuration error: " ++ m
  | .other m => m

/-- The operation of the manager behind an error, if any. -/
def operation? : Error → Option Operation
  | .database _ o _ => some o
  | .execution e => e.operation?
  | _ => none

/-- The error that an error wraps. -/
def source? : Error → Option Error
  | .execution e => some e
  | _ => none

end Error

/-- What a database or its driver has to say about a failure. -/
structure DriverError where
  message : String
  deriving DecidableEq, Repr

def DriverError.during (backend : String) (operation : Operation) (e : DriverError) : Error :=
  .database backend operation e.message

end FluentSql
