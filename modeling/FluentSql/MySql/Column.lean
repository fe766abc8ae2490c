/-! The columns of a result as the server describes them: a type of the protocol, a display length
and flags. From these follows what the cells of a column hold. -/

namespace FluentSql.MySql

/-- The types of the protocol. -/
inductive WireType where
  | tiny
  | short
  | long
  | int24
  | longLong
  | float
  | double
  | decimal
  | newDecimal
  | year
  | date
  | time
  | datetime
  | timestamp
  | bit
  | json
  | enum
  | set
  | geometry
  | null
  | varChar
  | varString
  | string
  | tinyBlob
  | blob
  | mediumBlob
  | longBlob
  deriving DecidableEq, Repr

namespace WireType

def names : List (String × WireType) :=
  [("TINY", .tiny), ("SHORT", .short), ("LONG", .long), ("INT24", .int24), ("LONGLONG", .longLong),
    ("FLOAT", .float), ("DOUBLE", .double), ("DECIMAL", .decimal), ("NEWDECIMAL", .newDecimal),
    ("YEAR", .year), ("DATE", .date), ("TIME", .time), ("DATETIME", .datetime),
    ("TIMESTAMP", .timestamp), ("BIT", .bit), ("JSON", .json), ("ENUM", .enum), ("SET", .set),
    ("GEOMETRY", .geometry), ("NULL", .null), ("VARCHAR", .varChar), ("VAR_STRING", .varString),
    ("STRING", .string), ("TINY_BLOB", .tinyBlob), ("BLOB", .blob), ("MEDIUM_BLOB", .mediumBlob),
    ("LONG_BLOB", .longBlob)]

def ofName? (s : String) : Option WireType :=
  names.lookup s

end WireType

structure Column where
  name : String
  type : WireType
  length : Nat := 255
  unsigned : Bool := false
  binary : Bool := false
  deriving DecidableEq, Repr

/-- What cells hold. -/
inductive Content where
  | boolean
  | signed
  | unsigned
  | single
  | double
  /-- Text that has to be UTF-8. -/
  | exact
  | datetime
  | timestamp
  | date
  | time
  | bits
  /-- Text, or octets where they are no UTF-8. -/
  | text
  | octets
  deriving DecidableEq, Repr

/-- What the cells of a column hold. A tiny integer of one digit is a truth value. -/
def Column.content (c : Column) : Content :=
  match c.type with
  | .tiny => if c.length = 1 then .boolean else if c.unsigned then .unsigned else .signed
  | .short | .long | .int24 | .longLong => if c.unsigned then .unsigned else .signed
  | .year => .unsigned
  | .float => .single
  | .double => .double
  | .decimal | .newDecimal | .json => .exact
  | .datetime => .datetime
  | .timestamp => .timestamp
  | .date => .date
  | .time => .time
  | .bit => .bits
  | .set | .geometry | .null => .octets
  | .enum | .varChar | .varString | .string | .tinyBlob | .blob | .mediumBlob | .longBlob =>
    if c.binary then .octets else .text

end FluentSql.MySql
