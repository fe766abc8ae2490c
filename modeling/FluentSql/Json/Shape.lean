import FluentSql.Error
import FluentSql.Json.Basic
import FluentSql.Text.Quoted

/-! Documents of the wrong shape. A reader of a document says what it expected; the refusal names
what it found instead. -/

namespace FluentSql

namespace Json

/-- A document in words: its kind, and its value if it is simple. -/
def described : Json → String
  | .null => "null"
  | .bool b => s!"boolean `{b}`"
  | .integer n => s!"integer `{n}`"
  | .float x => "floating point `" ++ floatText x ++ "`"
  | .string s => "string " ++ Text.Quoted.quote s
  | .array _ => "sequence"
  | .object _ => "map"

end Json

inductive ShapeError where
  | missingField (name : String)
  | kind (found : Json) (expected : String)
  | range (found : Json) (expected : String)
  | tooFew (found : Nat) (expected : String)
  | tooMany (found : Nat)
  | refused (error : Error)

namespace ShapeError

def message : ShapeError → String
  | missingField name => s!"missing field `{name}`"
  | kind found expected => "invalid type: " ++ found.described ++ ", expected " ++ expected
  | range found expected => "invalid value: " ++ found.described ++ ", expected " ++ expected
  | tooFew n expected => s!"invalid length {n}, expected {expected}"
  | tooMany n => s!"invalid length {n}, expected fewer elements in array"
  | refused e => e.message

end ShapeError

namespace Json

abbrev Shaped (α : Type) := Except ShapeError α

def asText : Json → Shaped String
  | .string s => .ok s
  | x => .error (.kind x "a string")

def asBool : Json → Shaped Bool
  | .bool b => .ok b
  | x => .error (.kind x "a boolean")

/-- A whole number of 16 bits without sign. -/
def asUInt16 : Json → Shaped UInt16
  | .integer n =>
    if 0 ≤ n ∧ n < UInt16.size then .ok (.ofNat n.toNat)
    else .error (.range (.integer n) "u16")
  | x => .error (.kind x "u16")

/-- Reads the fields of an object, or an array of the fields in order, into a draft. `title` names
what is read. -/
def readFields {α : Type} (title : String) (names : List String)
    (read : α → String → Json → Shaped α) (draft : α) : Json → Shaped α
  | .object fields => fields.foldlM (fun d (k, x) => read d k x) draft
  | .array items => do
    let draft ← (names.zip items).foldlM (fun d (k, x) => read d k x) draft
    if names.length < items.length then throw (.tooMany items.length)
    return draft
  | x => .error (.kind x title)

end Json

end FluentSql
