import FluentSql.Connection.Pooled
import FluentSql.MySql.Codec

/-! The driver for MySQL, over a server that plays a script. A statement is prepared once on a
connection and then executed with its parameters. The script has a reply for every statement, in
order, and failures for connecting and for the statements that control transactions. -/

namespace FluentSql.MySql

/-- An error of the server, by its number and state. -/
structure ServerError where
  number : Nat
  state : String
  message : String
  deriving DecidableEq, Repr

def ServerError.toDriver (e : ServerError) : DriverError :=
  ⟨s!"error returned from database: {e.number} ({e.state}): {e.message}"⟩

/-- What the server has to say about a statement. -/
structure Reply where
  columns : List Column := []
  rows : List (List (Option (List UInt8))) := []
  affected : UInt64 := 0
  /-- An error, and whether it comes as early as the statement is prepared. -/
  error : Option (Bool × ServerError) := none

/-- A server: the replies to come, the failures by what fails, the statements that the connection
has seen, and a log. -/
structure Server where
  replies : List Reply := []
  failures : List (String × ServerError) := []
  seen : List String := []
  log : List String := []

namespace Server

def note (entry : String) (s : Server) : Server :=
  { s with log := s.log ++ [entry] }

/-- Takes the next reply; an empty one when there is none. -/
def take (s : Server) : Reply × Server :=
  match s.replies with
  | [] => ({}, s)
  | r :: rs => (r, { s with replies := rs })

def failure? (what : String) (s : Server) : Except DriverError Unit :=
  match s.failures.lookup what with
  | some e => .error e.toDriver
  | none => .ok ()

/-- A statement that controls a transaction. -/
def control (sql : String) : DriverCall Server Unit := fun s =>
  (s.failure? sql, s.note ("simple " ++ sql))

/-- A connection is made when the pool is opened, and kept; it has seen no statement. -/
def connect : DriverCall Server Unit := fun s =>
  (s.failure? "connect", { s with seen := [] })

end Server

def listError : DriverError :=
  ⟨"list values cannot be bound as a single parameter"⟩

def Param.shown : Param → String
  | .null => "null"
  | .tiny bs => "tiny:" ++ Text.Hex.toText bs
  | .longLong bs => "longlong:" ++ Text.Hex.toText bs
  | .double bs => "double:" ++ Text.Hex.toText bs
  | .string bs => "string:" ++ Text.Hex.toText bs
  | .blob bs => "blob:" ++ Text.Hex.toText bs

/-- What a reply comes to, by whether the statement reads. -/
def Reply.output (r : Reply) : Access → Except DriverError RawOutput
  | .read => RawOutput.ofRows (decodeRow r.columns) CellError.message r.rows
  | .write => .ok (.write (if r.columns.isEmpty then r.affected else 0))

/-- Sends a statement with its parameters. A statement that the connection has seen is not prepared
again. -/
def send (sql : String) (params : List Param) : DriverCall Server RawOutput := fun s =>
  let (r, t) := s.take
  let t := { t with seen := sql :: t.seen }
  match r.error with
  | some (early, e) =>
    if early ∧ !s.seen.contains sql then (.error e.toDriver, t.note ("prepare " ++ sql))
    else (.error e.toDriver, t.note (executed sql params))
  | none => (r.output (Access.ofSql sql), t.note (executed sql params))
where
  executed (sql : String) (params : List Param) : String :=
    "execute " ++ sql ++ " [" ++ String.intercalate ", " (params.map Param.shown) ++ "]"

/-- Binds all parameters before anything is sent. -/
def execute (sql : String) (params : List Value) : DriverCall Server RawOutput := fun s =>
  match params.mapM Param.ofValue? with
  | some params => send sql params s
  | none => (.error listError, s)

def driver : PoolDriver Server Unit Unit where
  name := "mysql"
  placeholder := .question
  openPool := Server.connect
  acquire _ s := (.ok (), s)
  execute _ := execute
  begin _ := Server.control "BEGIN"
  commit _ := Server.control "COMMIT"
  rollback _ := Server.control "ROLLBACK"
  release _ s := s
  close _ s := (.ok (), s)

end FluentSql.MySql
