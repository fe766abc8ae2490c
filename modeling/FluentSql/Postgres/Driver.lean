import FluentSql.Connection.Pooled
import FluentSql.Postgres.Codec

/-! The driver for PostgreSQL, over a server that plays a script. A statement is prepared, and the
server tells the types of its parameters and columns; the parameters are encoded for these types and
bound, and the rows decoded. The script has a reply for every statement, in order, and failures for
connecting and for the statements that control transactions. -/

namespace FluentSql.Postgres

/-- An error of the server, by its code. -/
structure ServerError where
  code : String
  message : String
  deriving DecidableEq, Repr

def ServerError.toDriver (e : ServerError) : DriverError :=
  ⟨e.code ++ ": " ++ e.message⟩

/-- What the server has to say about a statement. -/
structure Reply where
  params : List DataType := []
  columns : List Column := []
  rows : List (List (Option (List UInt8))) := []
  tag : String := "SELECT 0"
  /-- An error, and whether it comes as early as the statement is prepared. -/
  error : Option (Bool × ServerError) := none

/-- A server: the replies to come, the failures by what fails, and what it has seen. -/
structure Server where
  replies : List Reply := []
  failures : List (String × ServerError) := []
  log : List String := []

namespace Server

def see (entry : String) (s : Server) : Server :=
  { s with log := s.log ++ [entry] }

/-- Takes the next reply; an empty one when there is none. -/
def take (s : Server) : Reply × Server :=
  match s.replies with
  | [] => ({}, s)
  | r :: rs => (r, { s with replies := rs })

/-- A statement that controls a transaction. -/
def control (sql : String) : DriverCall Server Unit := fun s =>
  (match s.failures.lookup sql with
    | some e => .error e.toDriver
    | none => .ok (),
    s.see ("simple " ++ sql))

/-- A connection is made when the pool is opened, and kept. -/
def connect : DriverCall Server Unit := fun s =>
  (match s.failures.lookup "connect" with
    | some _ => .error ⟨"pool error: Error occurred while creating a new object: db error"⟩
    | none => .ok (),
    s)

end Server

/-- Encodes parameters from the one at `index` on; the first that cannot be encoded is told. -/
def encodeAll (index : Nat) : List DataType → List Value →
    Except DriverError (List (Option (List UInt8)))
  | t :: ts, v :: vs =>
    match encode v t with
    | .error _ => .error ⟨s!"error serializing parameter {index}"⟩
    | .ok bs => do return bs :: (← encodeAll (index + 1) ts vs)
  | _, _ => .ok []

/-- Encodes as many parameters as the statement has. -/
def bindAll (types : List DataType) (params : List Value) :
    Except DriverError (List (Option (List UInt8))) :=
  if types.length = params.length then encodeAll 0 types params
  else .error ⟨s!"expected {types.length} parameters but got {params.length}"⟩

def boundText : Option (List UInt8) → String
  | some bs => Text.Hex.toText bs
  | none => "null"

/-- The number of rows in the tag of a statement, its last word. -/
def affected (tag : String) : UInt64 :=
  let word := ((Text.pieces (· == ' ') tag.toList).getLast?).getD []
  (readUInt64 word).toOption.getD 0

/-- What a reply comes to, by whether the statement reads. -/
def Reply.output (r : Reply) : Access → Except DriverError RawOutput
  | .read => RawOutput.ofRows (decodeRow r.columns) DecodeError.message r.rows
  | .write => .ok (.write (affected r.tag))

def execute (sql : String) (params : List Value) : DriverCall Server RawOutput := fun s =>
  let (r, s) := (s.see ("prepare " ++ sql)).take
  match r.error with
  | some (true, e) => (.error e.toDriver, s)
  | error =>
    match bindAll r.params params with
    | .error e => (.error e, s)
    | .ok bound =>
      let s := s.see ("bind [" ++ String.intercalate ", " (bound.map boundText) ++ "]")
      match error with
      | some (_, e) => (.error e.toDriver, s)
      | none => (r.output (Access.ofSql sql), s)

def driver : PoolDriver Server Unit Unit where
  name := "postgres"
  placeholder := .dollar
  openPool := Server.connect
  acquire _ s := (.ok (), s)
  execute _ := execute
  begin _ := Server.control "BEGIN"
  commit _ := Server.control "COMMIT"
  rollback _ := Server.control "ROLLBACK"
  release _ s := s
  close _ s := (.ok (), s)

end FluentSql.Postgres
