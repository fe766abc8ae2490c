import FluentSql.Text.Blank

/-! Integers written in decimal: an optional sign and digits. Reading into a range tells an empty
text, a bad character and a number on either side of the range apart. -/

namespace FluentSql

def isDigit (c : Char) : Bool :=
  '0' ≤ c && c ≤ '9'

/-- The number that a row of digits continues. -/
def natOfDigits (start : Nat) (ds : List Char) : Nat :=
  ds.foldl (fun n d => 10 * n + (d.toNat - 48)) start

inductive IntegerError where
  | empty
  | badDigit
  | tooLarge
  | tooSmall
  deriving DecidableEq, Repr

def IntegerError.message : IntegerError → String
  | .empty => "cannot parse integer from empty string"
  | .badDigit => "invalid digit found in string"
  | .tooLarge => "number too large to fit in target type"
  | .tooSmall => "number too small to fit in target type"

/-- The sign of a number and what follows it. A sign with nothing behind it is no sign. -/
def takeSign : List Char → Bool × List Char
  | '-' :: c :: cs => (true, c :: cs)
  | '+' :: c :: cs => (false, c :: cs)
  | cs => (false, cs)

/-- Continues a number by a row of digits, each of which keeps it between `low` and `high`. The
first character that is no digit or leaves the range decides the error. -/
def readDigits (low high : Int) (neg : Bool) (n : Int) : List Char → Except IntegerError Int
  | [] => .ok n
  | c :: cs =>
    if isDigit c then
      let d : Int := c.toNat - 48
      let n := 10 * n + if neg then -d else d
      if n < low then .error .tooSmall
      else if high < n then .error .tooLarge
      else readDigits low high neg n cs
    else .error .badDigit

/-- Reads a number that has to lie between `low` and `high`. -/
def readInteger (low high : Int) (s : List Char) : Except IntegerError Int :=
  if s.isEmpty then .error .empty
  else
    let (neg, ds) := takeSign s
    readDigits low high neg 0 ds

/-- Reads a 64-bit integer. -/
def readInt64 (s : List Char) : Except IntegerError Int64 :=
  Int64.ofInt <$> readInteger Int64.minValue.toInt Int64.maxValue.toInt s

/-- Reads an unsigned 64-bit integer. -/
def readUInt64 (s : List Char) : Except IntegerError UInt64 :=
  (fun n => UInt64.ofNat n.toNat) <$> readInteger 0 (UInt64.size - 1) s

end FluentSql
