import FluentSql.Calendar.Moment
import FluentSql.MySql.Column
import FluentSql.Number.Octets
import FluentSql.Record
import FluentSql.Text.Utf8

/-! Values on the wire. Parameters tell their own type, and every value but a list has one. Numbers
have their least significant octet first; a date, a moment or a time is a row of fields whose length
tells which of them are there. -/

namespace FluentSql.MySql

/-! ### Parameters -/

/-- The types under which parameters are sent. -/
inductive Param where
  | null
  | tiny (octets : List UInt8)
  | longLong (octets : List UInt8)
  | double (octets : List UInt8)
  | string (octets : List UInt8)
  | blob (octets : List UInt8)
  deriving DecidableEq, Repr

/-- The parameter that carries a value; a list has none. -/
def Param.ofValue? : Value → Option Param
  | .null => some .null
  | .bool b => some (.tiny [if b then 1 else 0])
  | .int n => some (.longLong (Octets.littleInt 8 n.toInt))
  | .float x => some (.double (Octets.little 8 x.bits.toNat))
  | .text s => some (.string (Text.Utf8.encode s))
  | .bytes bs => some (.blob bs)
  | .list _ => none

/-! ### Dates and times -/

inductive DecodeError where
  | utf8 (e : Text.Utf8Error)
  | date (year month day : Nat)
  | clock (hour minute second micros : Nat)
  | field (name : String) (max value : Nat)
  | duration (negative : Bool) (hours minutes seconds micros : Nat)
  | length (found : Nat)
  | bits
  deriving DecidableEq, Repr

namespace DecodeError

def padded (n : Nat) : String :=
  String.ofList (Date.padded 2 n)

/-- Micros behind a point, without zeros at the end; nothing if there are none. -/
def fraction (micros : Nat) : String :=
  if micros = 0 then ""
  else String.ofList ('.' :: ((Date.padded 6 micros).reverse.dropWhile (· == '0')).reverse)

def message : DecodeError → String
  | .utf8 e => e.message
  | .date y m d => s!"server returned invalid date: {y}/{m}/{d}"
  | .clock h m s n =>
    "server returned invalid time: " ++ padded h ++ ":" ++ padded m ++ ":" ++ padded s ++
      "; micros: " ++ toString n
  | .field name max value => s!"`MySqlTime` field `{name}` cannot exceed {max}, got {value}"
  | .duration negative h m s n =>
    "Cannot convert `MySqlTime` value to `NaiveTime`: " ++ (if negative then "-" else "") ++
      padded h ++ ":" ++ padded m ++ ":" ++ padded s ++ fraction n
  | .length n => s!"expected 8 or 12 bytes for TIME column, got {n}"
  | .bits =>
    "mismatched types; Rust type `alloc::vec::Vec<u8>` (as SQL type `BLOB`) is not compatible " ++
      "with SQL type `BIT`"

end DecodeError

abbrev Decoded := Except DecodeError

/-- The octets at a place; those that are missing are zero. -/
def slice (start width : Nat) (bs : List UInt8) : Nat :=
  Octets.ofLittle ((bs.drop start).take width)

def decodeDate (bs : List UInt8) : Decoded Date :=
  let (year, month, day) := (slice 0 2 bs, slice 2 1 bs, slice 3 1 bs)
  match Date.of? year month day with
  | some d => .ok d
  | none => .error (.date year month day)

/-- A time of day; the last second of a minute may be a leap second. -/
def clockOf? (hour minute second micros : Nat) : Option Clock :=
  if hour < 24 ∧ minute < 60 ∧ second < 60 ∧
      (micros < 1000000 ∨ (second = 59 ∧ micros < 2000000)) then
    some (if micros < 1000000 then ⟨hour, minute, second, micros * 1000⟩
      else ⟨hour, minute, 60, (micros - 1000000) * 1000⟩)
  else none

def decodeClock (bs : List UInt8) : Decoded Clock :=
  let (hour, minute, second) := (slice 4 1 bs, slice 5 1 bs, slice 6 1 bs)
  let micros := slice 7 4 bs
  match clockOf? hour minute second micros with
  | some c => .ok c
  | none => .error (.clock hour minute second micros)

def decodeMoment (bs : List UInt8) : Decoded Moment := do
  return ⟨← decodeDate bs, ← decodeClock bs⟩

/-- The ranges of the fields of a duration, in the order in which they are looked at. -/
def checkField (name : String) (max value : Nat) : Decoded Unit :=
  if value ≤ max then .ok () else .error (.field name max value)

/-- A duration that is a time of day; whether it is negative does not count. -/
def decodeTime (bs : List UInt8) : Decoded Clock :=
  if bs.isEmpty then .ok .midnight
  else if bs.length ≠ 8 ∧ bs.length ≠ 12 then .error (.length bs.length)
  else do
    let hours := 24 * slice 1 4 bs + slice 5 1 bs
    let (minutes, seconds, micros) := (slice 6 1 bs, slice 7 1 bs, slice 8 4 bs)
    checkField "hours" 838 hours
    checkField "minutes" 59 minutes
    checkField "seconds" 59 seconds
    checkField "microseconds" 999999 micros
    match clockOf? hours minutes seconds micros with
    | some c => return c
    | none => throw (.duration (slice 0 1 bs == 1) hours minutes seconds micros)

/-! ### Cells -/

def textOf (cs : List Char) : Value :=
  .text (String.ofList cs)

/-- A date or a moment; without a field it is null. -/
def dated {α : Type} (decode : List UInt8 → Decoded α) (text : α → List Char) (bs : List UInt8) :
    Decoded Value :=
  if bs.isEmpty then .ok .null else (fun a => textOf (text a)) <$> decode bs

def decodeCell (c : Content) (bs : List UInt8) : Decoded Value :=
  match c with
  | .boolean => .ok (.bool (Octets.ofLittle bs ≠ 0))
  | .signed => .ok (.int (.ofInt (Octets.intOfLittle bs)))
  | .unsigned => .ok (.ofUInt64 (.ofNat (Octets.ofLittle bs)))
  | .single => .ok (.ofSingle (.ofNat (Octets.ofLittle bs)))
  | .double => .ok (.float ⟨.ofNat (Octets.ofLittle bs)⟩)
  | .exact => (Value.text <$> Text.Utf8.decode bs).mapError .utf8
  | .datetime => dated decodeMoment Moment.text bs
  | .timestamp => dated decodeMoment Moment.universalText bs
  | .date => dated decodeDate Date.text bs
  | .time => (fun t => textOf t.text) <$> decodeTime bs
  | .bits => .error .bits
  | .text => .ok (((Text.Utf8.decode? bs).map Value.text).getD (.bytes bs))
  | .octets => .ok (.bytes bs)

/-- A cell that cannot be read, by the place of its column. -/
structure CellError where
  index : Nat
  error : DecodeError
  deriving DecidableEq, Repr

def CellError.message (e : CellError) : String :=
  s!"error occurred while decoding column {e.index}: " ++ e.error.message

def decodeColumn (c : Column) (index : Nat) : Option (List UInt8) → Except CellError Value
  | none => .ok .null
  | some bs => (decodeCell c.content bs).mapError (⟨index, ·⟩)

/-- The columns of a row, each with what reading its cell gives; a column without a cell is null. -/
def readings (columns : List Column) (cells : List (Option (List UInt8))) :
    List (String × Except CellError Value) :=
  columns.zipIdx.map fun (c, i) => (c.name, decodeColumn c i (cells[i]?.getD none))

/-- Reads a row; of columns with one name the last counts. -/
def decodeRow (columns : List Column) (cells : List (Option (List UInt8))) :
    Except CellError Record :=
  Record.ofReadings (readings columns cells)

end FluentSql.MySql
