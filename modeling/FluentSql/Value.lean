import FluentSql.Json.Basic

/-! The values that statements bind and rows hold. A value has one of seven kinds; conversions into
values never change a whole number that 64 signed bits hold, and a larger one becomes its decimal
text. A value is written as JSON without naming its kind, octets as an array of numbers. -/

namespace FluentSql

inductive Value where
  | null
  | bool (b : Bool)
  | int (n : Int64)
  | float (x : Double)
  | text (s : String)
  | bytes (bs : List UInt8)
  | list (items : List Value)
  deriving Inhabited

namespace Value

def kindName : Value → String
  | .null => "null"
  | .bool _ => "bool"
  | .int _ => "int"
  | .float _ => "float"
  | .text _ => "text"
  | .bytes _ => "bytes"
  | .list _ => "list"

def isNull : Value → Bool
  | .null => true
  | _ => false

def isList : Value → Bool
  | .list _ => true
  | _ => false

/-! ### Views -/

/-- A truth value, or whether a number is not zero. -/
def asBool? : Value → Option Bool
  | .bool b => some b
  | .int n => some (n ≠ 0)
  | _ => none

def asInt? : Value → Option Int64
  | .int n => some n
  | _ => none

/-- A double, or the one nearest to a whole number. -/
def asDouble? : Value → Option Double
  | .float x => some x
  | .int n => some (.ofInt n.toInt)
  | _ => none

def asText? : Value → Option String
  | .text s => some s
  | _ => none

/-! ### Conversions -/

/-- A whole number without sign; the decimal text of one beyond 64 signed bits. -/
def ofUInt64 (n : UInt64) : Value :=
  if 2 * n.toNat < UInt64.size then .int (.ofNat n.toNat) else .text (toString n.toNat)

def ofSingle (bits : UInt32) : Value :=
  .float (.ofSingle bits)

/-- The value inside, or null. -/
def ofOption {α : Type} (f : α → Value) : Option α → Value
  | some a => f a
  | none => .null

mutual
/-- The value of a JSON document. Whole numbers beyond 64 signed bits become the nearest double, and
an object becomes its text. -/
def ofJson : Json → Value
  | .null => .null
  | .bool b => .bool b
  | .integer n =>
    if Int64.minValue.toInt ≤ n ∧ n ≤ Int64.maxValue.toInt then .int (.ofInt n)
    else .float (.ofInt n)
  | .float x => .float x
  | .string s => .text s
  | .array items => .list (ofJsonList items)
  | .object fields => .text (Json.object fields).text

def ofJsonList : List Json → List Value
  | [] => []
  | x :: xs => ofJson x :: ofJsonList xs
end

mutual
/-- The JSON document of a value. -/
def toJson : Value → Json
  | .null => .null
  | .bool b => .bool b
  | .int n => .integer n.toInt
  | .float x => if x.isFinite then .float x else .null
  | .text s => .string s
  | .bytes bs => .array (bs.map fun b => .integer b.toNat)
  | .list items => .array (toJsonList items)

def toJsonList : List Value → List Json
  | [] => []
  | v :: vs => toJson v :: toJsonList vs
end

end Value

end FluentSql
