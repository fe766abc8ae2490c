/-! The data types of parameters and columns: those that the codec knows, others that come with the
database, and types that somebody defined, which live in a schema. -/

namespace FluentSql.Postgres

inductive DataType where
  | bool
  | int2
  | int4
  | int8
  | oid
  | float4
  | float8
  | numeric
  | text
  | varchar
  | bpchar
  | name
  | unknown
  | bytea
  | json
  | jsonb
  | uuid
  | timestamp
  | timestamptz
  | date
  | time
  | other (name : String)
  | custom (schema name : String)
  deriving DecidableEq, Repr

namespace DataType

/-- The name of a type in its schema. -/
def label : DataType → String
  | .bool => "bool"
  | .int2 => "int2"
  | .int4 => "int4"
  | .int8 => "int8"
  | .oid => "oid"
  | .float4 => "float4"
  | .float8 => "float8"
  | .numeric => "numeric"
  | .text => "text"
  | .varchar => "varchar"
  | .bpchar => "bpchar"
  | .name => "name"
  | .unknown => "unknown"
  | .bytea => "bytea"
  | .json => "json"
  | .jsonb => "jsonb"
  | .uuid => "uuid"
  | .timestamp => "timestamp"
  | .timestamptz => "timestamptz"
  | .date => "date"
  | .time => "time"
  | .other n => n
  | .custom _ n => n

/-- A type in a message, its schema before it if that is not one of the usual two. -/
def shown : DataType → String
  | .custom "pg_catalog" n => n
  | .custom "public" n => n
  | .custom schema n => schema ++ "." ++ n
  | t => t.label

/-- The types that the codec knows. -/
def known : List DataType :=
  [.bool, .int2, .int4, .int8, .oid, .float4, .float8, .numeric, .text, .varchar, .bpchar, .name,
    .unknown, .bytea, .json, .jsonb, .uuid, .timestamp, .timestamptz, .date, .time]

/-- The type of a name that comes with the database. -/
def ofName (s : String) : DataType :=
  (known.find? fun t => t.label == s).getD (.other s)

def isText : DataType → Bool
  | .text | .varchar | .bpchar | .name | .unknown => true
  | _ => false

end DataType

end FluentSql.Postgres
