import FluentSql.Calendar.Reader
import FluentSql.Json.Reader
import FluentSql.Postgres.DataType
import FluentSql.Postgres.Numeric
import FluentSql.Record
import FluentSql.Text.Utf8
import FluentSql.Uuid

/-! Values on the wire. The server tells the type of every parameter and every column. A value is
written in the form of the parameter's type: whole numbers are narrowed only where nothing is lost,
texts are read as what the parameter holds, and what does not go with the type is refused. A cell is
read by the type of its column; types without a plain value of their own become text. -/

namespace FluentSql.Postgres

/-! ### Parameters -/

inductive BindError where
  | list
  /-- A value of a kind that the type does not take. -/
  | kind (tried : String) (type : DataType)
  | integer (e : IntegerError)
  | range
  | calendar
  | uuid
  | decimal
  | json
  deriving DecidableEq, Repr

/-- The words for a refusal, where they are the codec's own. -/
def BindError.message? : BindError → Option String
  | .list => some "list values cannot be bound as a single parameter"
  | .kind tried t => some s!"cannot bind {tried} to a parameter of type {t.shown}"
  | .integer e => some e.message
  | _ => none

abbrev Bound := Except BindError (List UInt8)

/-- Decimal text with neither exponent nor a point behind whole numbers. -/
def plainLayout : DecimalLayout where
  positional _ := true
  pointZero := false

/-- A double as plain text, also where it is no number. -/
def plainText (x : Double) : String :=
  match x.parts with
  | .finite _ _ => (x.text? plainLayout).getD ""
  | .infinite => if x.negative then "-inf" else "inf"
  | .nan _ => "NaN"

def encodeBool (b : Bool) : List UInt8 :=
  [if b then 1 else 0]

/-- A whole number between bounds, in `width` octets. -/
def encodeInt (width : Nat) (low high : Int) (n : Int64) : Bound :=
  if low ≤ n.toInt ∧ n.toInt ≤ high then .ok (Octets.bigInt width n.toInt) else .error .range

def bindBool (b : Bool) (t : DataType) : Bound :=
  if t = .bool then .ok (encodeBool b) else .error (.kind "bool" t)

def bindInt (n : Int64) (t : DataType) : Bound :=
  match t with
  | .int2 => encodeInt 2 Int16.minValue.toInt Int16.maxValue.toInt n
  | .int4 => encodeInt 4 Int32.minValue.toInt Int32.maxValue.toInt n
  | .int8 => .ok (Octets.bigInt 8 n.toInt)
  | .oid => encodeInt 4 0 (UInt32.size - 1) n
  | .float4 => .ok (Octets.big 4 (Double.singleOfInt n.toInt).toNat)
  | .float8 => .ok (Octets.big 8 (Double.ofInt n.toInt).bits.toNat)
  | .numeric => .ok (Numeric.encode (.ofInt n.toInt))
  | .bool => .ok (encodeBool (n ≠ 0))
  | t => if t.isText then .ok (Text.Utf8.encode (toString n.toInt)) else .error (.kind "i64" t)

def bindFloat (x : Double) (t : DataType) : Bound :=
  match t with
  | .float4 => .ok (Octets.big 4 x.toSingle.toNat)
  | .float8 => .ok (Octets.big 8 x.bits.toNat)
  | .numeric =>
    match Fixed.ofDouble? x with
    | some d => .ok (Numeric.encode d)
    | none => .error .decimal
  | t => if t.isText then .ok (Text.Utf8.encode (plainText x)) else .error (.kind "f64" t)

/-- A document written anew; the binary form has its version before it. -/
def bindJson (s : String) (version : List UInt8) : Bound :=
  match Json.read? s.toList with
  | some x => .ok (version ++ Text.Utf8.encode x.text)
  | none => .error .json

/-- The types beside the text types that take text as it is, and what stands before it. -/
def textMark? (t : DataType) : Option (List UInt8) :=
  if t.isText then some []
  else match t with
    | .custom _ "citext" => some []
    | .custom _ "ltree" => some [1]
    | .custom _ "lquery" => some [1]
    | .custom _ "ltxtquery" => some [1]
    | _ => none

/-- What a reader of text gives, encoded; else an error. -/
def bindRead {α : Type} (e : BindError) (encode : α → List UInt8) : Option α → Bound
  | some a => .ok (encode a)
  | none => .error e

def bindText (s : String) (t : DataType) : Bound :=
  match t with
  | .json => bindJson s []
  | .jsonb => bindJson s [1]
  | .uuid => bindRead .uuid id (Uuid.read? s.toList)
  | .numeric => bindRead .decimal Numeric.encode (Fixed.read? s.toList)
  | .timestamptz => bindRead .calendar (Octets.bigInt 8) (Moment.readZoned? s.toList)
  | .timestamp => bindRead .calendar (fun m => Octets.bigInt 8 m.toMicros) (Moment.read? s.toList)
  | .date => bindRead .calendar (fun d => Octets.bigInt 4 d.toDays) (Date.read? s.toList)
  | .time => bindRead .calendar (fun c => Octets.big 8 (c.toNanos / 1000)) (Clock.read? s.toList)
  | .int2 | .int4 | .int8 =>
    match readInt64 (Text.trim s).toList with
    | .ok n => bindInt n t
    | .error e => .error (.integer e)
  | t =>
    match textMark? t with
    | some mark => .ok (mark ++ Text.Utf8.encode s)
    | none => .error (.kind "&str" t)

def bindBytes (bs : List UInt8) (t : DataType) : Bound :=
  if t = .bytea then .ok bs else .error (.kind "&[u8]" t)

/-- A value as a parameter of a type; nothing for null. -/
def encode (v : Value) (t : DataType) : Except BindError (Option (List UInt8)) :=
  match v with
  | .null => .ok none
  | .bool b => some <$> bindBool b t
  | .int n => some <$> bindInt n t
  | .float x => some <$> bindFloat x t
  | .text s => some <$> bindText s t
  | .bytes bs => some <$> bindBytes bs t
  | .list _ => .error .list

/-! ### Columns -/

/-- Octets of the one length that a type has. -/
def sized? (width : Nat) (bs : List UInt8) : Option (List UInt8) :=
  if bs.length = width then some bs else none

/-- A signed number of a width. -/
def int? (width : Nat) (bs : List UInt8) : Option Int :=
  Octets.intOfBig <$> sized? width bs

def nat? (width : Nat) (bs : List UInt8) : Option Nat :=
  Octets.ofBig <$> sized? width bs

def ofChars (cs : List Char) : Value :=
  .text (String.ofList cs)

/-- The text of a document. -/
def jsonText? (bs : List UInt8) : Option String := do
  let s ← Text.Utf8.decode? bs
  return (← Json.read? s.toList).text

/-- A cell of the binary form behind its version. -/
def unversioned? : List UInt8 → Option (List UInt8)
  | 1 :: bs => some bs
  | _ => none

/-- Reads the octets of a cell, by a type that is known. -/
def decodeCell? (t : DataType) (bs : List UInt8) : Option Value :=
  match t with
  | .bool => (fun bs => Value.bool (bs != [0])) <$> sized? 1 bs
  | .int2 => (fun n => Value.int (.ofInt n)) <$> int? 2 bs
  | .int4 => (fun n => Value.int (.ofInt n)) <$> int? 4 bs
  | .int8 => (fun n => Value.int (.ofInt n)) <$> int? 8 bs
  | .oid => (fun n => Value.int (.ofNat n)) <$> nat? 4 bs
  | .float4 => (fun n => Value.ofSingle (.ofNat n)) <$> nat? 4 bs
  | .float8 => (fun n => Value.float ⟨.ofNat n⟩) <$> nat? 8 bs
  | .numeric => (fun x => Value.text x.text) <$> Numeric.decode? bs
  | .text | .varchar | .bpchar | .name | .unknown => Value.text <$> Text.Utf8.decode? bs
  | .bytea => some (.bytes bs)
  | .json => Value.text <$> jsonText? bs
  | .jsonb => Value.text <$> (unversioned? bs >>= jsonText?)
  | .uuid => (fun bs => ofChars (Uuid.text bs)) <$> sized? 16 bs
  | .timestamp => (fun m => ofChars m.text) <$> (int? 8 bs >>= Moment.ofMicros?)
  | .timestamptz => (fun m => ofChars m.universalText) <$> (int? 8 bs >>= Moment.ofMicros?)
  | .date => (fun d => ofChars d.text) <$> (int? 4 bs >>= Date.ofDays?)
  | .time =>
    (fun n : Int => ofChars (Clock.ofMicros (n % Clock.dayMicros).toNat).text) <$> int? 8 bs
  | .other _ | .custom _ _ => none

structure Column where
  name : String
  type : DataType
  deriving DecidableEq, Repr

inductive DecodeError where
  | unsupported (column : Column)
  | cell (column : Column) (index : Nat)
  deriving DecidableEq, Repr

def DecodeError.message : DecodeError → String
  | .unsupported c => s!"column '{c.name}': unsupported column type {c.type.shown}"
  | .cell c i => s!"column '{c.name}': error deserializing column {i}"

/-- Reads the cell of a column that stands at `index`. A type that is not known is refused even
where the cell is null. -/
def decodeColumn (c : Column) (index : Nat) (cell : Option (List UInt8)) :
    Except DecodeError Value :=
  if DataType.known.contains c.type then
    match cell with
    | none => .ok .null
    | some bs =>
      match decodeCell? c.type bs with
      | some v => .ok v
      | none => .error (.cell c index)
  else .error (.unsupported c)

/-- The columns of a row, each with what reading its cell gives; a column without a cell is null. -/
def readings (columns : List Column) (cells : List (Option (List UInt8))) :
    List (String × Except DecodeError Value) :=
  columns.zipIdx.map fun (c, i) => (c.name, decodeColumn c i (cells[i]?.getD none))

/-- Reads a row; of columns with one name the last counts. -/
def decodeRow (columns : List Column) (cells : List (Option (List UInt8))) :
    Except DecodeError Record :=
  Record.ofReadings (readings columns cells)

end FluentSql.Postgres
