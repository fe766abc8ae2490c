import FluentSql.Number.Shortest
import FluentSql.Text.Hex

/-! JSON documents and their text. Whole numbers and doubles are kept apart. The text has no blanks;
in strings only quotes, backslashes and control characters are escaped; a double is the shortest
decimal that reads back, with an exponent outside the range where it is easily read. An object is
written in the order of its fields. -/

namespace FluentSql

inductive Json where
  | null
  | bool (b : Bool)
  | integer (n : Int)
  | float (x : Double)
  | string (s : String)
  | array (items : List Json)
  | object (fields : List (String × Json))
  deriving Inhabited

namespace Json

/-- Decimals are written without exponent from `0.00001` up to sixteen digits, and a whole number
shows that it is a float. -/
def numberLayout : DecimalLayout where
  positional top := -5 ≤ top ∧ top ≤ 15
  pointZero := true

/-- The text of a finite double. -/
def floatText (x : Double) : String :=
  (x.text? numberLayout).getD "null"

def escaped (c : Char) : List Char :=
  match c with
  | '"' => ['\\', '"']
  | '\\' => ['\\', '\\']
  | '\n' => ['\\', 'n']
  | '\r' => ['\\', 'r']
  | '\t' => ['\\', 't']
  | '\x08' => ['\\', 'b']
  | '\x0C' => ['\\', 'f']
  | c => if c.toNat < 0x20 then '\\' :: 'u' :: (Text.Hex.ofNat 4 c.toNat).toList else [c]

def quoted (s : String) : String :=
  String.ofList ('"' :: s.toList.flatMap escaped ++ ['"'])

mutual
/-- The text of a document. -/
def text : Json → String
  | .null => "null"
  | .bool true => "true"
  | .bool false => "false"
  | .integer n => toString n
  | .float x => floatText x
  | .string s => quoted s
  | .array items => "[" ++ itemsText items ++ "]"
  | .object fields => "\x7b" ++ fieldsText fields ++ "\x7d"

def itemsText : List Json → String
  | [] => ""
  | [x] => text x
  | x :: xs => text x ++ "," ++ itemsText xs

def fieldsText : List (String × Json) → String
  | [] => ""
  | [(k, x)] => quoted k ++ ":" ++ text x
  | (k, x) :: xs => quoted k ++ ":" ++ text x ++ "," ++ fieldsText xs
end

/-! ### Objects in the order of their keys -/

/-- Puts a field into a list sorted by key, in place of one with the same key. -/
def insertField (k : String) (x : Json) : List (String × Json) → List (String × Json)
  | [] => [(k, x)]
  | (l, y) :: fs =>
    if k < l then (k, x) :: (l, y) :: fs
    else if l < k then (l, y) :: insertField k x fs
    else (k, x) :: fs

/-- An object sorted by key; of repeated keys the last counts. -/
def ofFields (fs : List (String × Json)) : Json :=
  .object (fs.foldl (fun sorted (k, x) => insertField k x sorted) [])

end Json

end FluentSql
