import FluentSql.Json.Basic
import FluentSql.Number.Integer

/-! Reading JSON text. The grammar is the strict one; arrays and objects may be nested 127 deep. A
number without fraction or exponent is whole if 64 bits hold it and it is not a negative zero;
every other number is the nearest double, and one beyond all doubles is refused. -/

namespace FluentSql.Json

/-- What is left of a text of which something has been read. -/
abbrev Rest (s : List Char) := { r : List Char // r.length < s.length }

def isSpace (c : Char) : Bool :=
  c == ' ' || c == '\n' || c == '\t' || c == '\r'

/-- The text behind white space. -/
def skip (s : List Char) : List Char :=
  s.dropWhile isSpace

/-- The text behind a colon. -/
def colon? : List Char → Option (List Char)
  | ':' :: s => some s
  | _ => none

/-! ### Strings -/

def hex4? (a b c d : Char) : Option Nat := do
  return ((16 * (← Text.hexValue? a) + (← Text.hexValue? b)) * 16 + (← Text.hexValue? c)) * 16 +
    (← Text.hexValue? d)

/-- The character of an escape sequence, behind its backslash. The first half of a pair of code
units has to be followed by the other half. -/
def escape? (s : List Char) : Option (Char × Rest s) :=
  match s with
  | '"' :: r => some ('"', ⟨r, by simp⟩)
  | '\\' :: r => some ('\\', ⟨r, by simp⟩)
  | '/' :: r => some ('/', ⟨r, by simp⟩)
  | 'b' :: r => some ('\x08', ⟨r, by simp⟩)
  | 'f' :: r => some ('\x0C', ⟨r, by simp⟩)
  | 'n' :: r => some ('\n', ⟨r, by simp⟩)
  | 'r' :: r => some ('\r', ⟨r, by simp⟩)
  | 't' :: r => some ('\t', ⟨r, by simp⟩)
  | 'u' :: a :: b :: c :: d :: r => do
    let n ← hex4? a b c d
    if n < 0xD800 ∨ 0xDFFF < n then some (Char.ofNat n, ⟨r, by simp; omega⟩)
    else if 0xDBFF < n then none
    else match h : r with
      | '\\' :: 'u' :: a :: b :: c :: d :: t =>
        let m ← hex4? a b c d
        if 0xDC00 ≤ m ∧ m ≤ 0xDFFF then
          some (Char.ofNat (0x10000 + (n - 0xD800) * 0x400 + (m - 0xDC00)), ⟨t, by simp [h]; omega⟩)
        else none
      | _ => none
  | _ => none

/-- The characters up to the closing quote. -/
def string? (s : List Char) : Option (List Char × List Char) :=
  match s with
  | [] => none
  | '"' :: r => some ([], r)
  | '\\' :: r => do
    let (c, ⟨r, _⟩) ← escape? r
    let (cs, t) ← string? r
    return (c :: cs, t)
  | c :: r =>
    if c.toNat < 0x20 then none
    else do
      let (cs, t) ← string? r
      return (c :: cs, t)
termination_by s.length

/-! ### Numbers -/

/-- A whole number without sign, as written: no zero in front of other digits. -/
def natural? (s : List Char) : Option (List Char × List Char) :=
  match s with
  | '0' :: r => some (['0'], r)
  | _ =>
    let ds := s.takeWhile isDigit
    if ds.isEmpty then none else some (ds, s.drop ds.length)

/-- The digits behind a point, if there is one. -/
def fraction? (s : List Char) : Option (Option (List Char) × List Char) :=
  match s with
  | '.' :: r =>
    let ds := r.takeWhile isDigit
    if ds.isEmpty then none else some (some ds, r.drop ds.length)
  | _ => some (none, s)

/-- The exponent, if there is one. -/
def exponent? (s : List Char) : Option (Option Int × List Char) :=
  match s with
  | c :: r =>
    if c = 'e' ∨ c = 'E' then
      let (neg, r) : Bool × List Char := match r with
        | '-' :: r => (true, r)
        | '+' :: r => (false, r)
        | _ => (false, r)
      let ds := r.takeWhile isDigit
      if ds.isEmpty then none
      else
        let n : Int := natOfDigits 0 ds
        some (some (if neg then -n else n), r.drop ds.length)
    else some (none, s)
  | [] => some (none, s)

/-- The double nearest to `m * 10 ^ e`. Exponents far outside the doubles are decided by the number
of digits alone. -/
def nearest? (neg : Bool) (m : Nat) (e : Int) : Option Double :=
  let top := (Nat.toDigits 10 m).length + e
  if m = 0 ∨ top < -400 then some (.zero neg)
  else if 400 < top then none
  else
    let x := Double.ofRatio neg (m * Nat.pow 10 e.toNat) (Nat.pow 10 (-e).toNat)
    if x.isFinite then some x else none

/-- Whether 64 bits, signed for a negative one, hold the number of a sign and a magnitude. -/
def isWhole (neg : Bool) (m : Nat) : Bool :=
  if neg then 0 < m && 2 * m ≤ UInt64.size else m < UInt64.size

/-- The number of a sign, digits, and the parts that make it a float. -/
def number? (neg : Bool) (whole : List Char) (fraction : Option (List Char))
    (exponent : Option Int) : Option Json :=
  let m := natOfDigits 0 whole
  if fraction.isNone && exponent.isNone && isWhole neg m then
    some (.integer (if neg then -m else m))
  else
    let places := fraction.getD []
    .float <$> nearest? neg (natOfDigits m places) (exponent.getD 0 - places.length)

/-- Reads a number. -/
def readNumber? (s : List Char) : Option (Json × List Char) := do
  let (neg, r) : Bool × List Char := match s with
    | '-' :: r => (true, r)
    | _ => (false, s)
  let (whole, r) ← natural? r
  let (fraction, r) ← fraction? r
  let (exponent, r) ← exponent? r
  return (← number? neg whole fraction exponent, r)

/-! ### Documents -/

mutual
/-- Reads a value that may hold `depth` levels of arrays and objects, in at most `fuel` calls. -/
def value? : (fuel depth : Nat) → List Char → Option (Json × List Char)
  | 0, _, _ => none
  | fuel + 1, depth, s =>
    match s with
    | 'n' :: 'u' :: 'l' :: 'l' :: r => some (.null, r)
    | 't' :: 'r' :: 'u' :: 'e' :: r => some (.bool true, r)
    | 'f' :: 'a' :: 'l' :: 's' :: 'e' :: r => some (.bool false, r)
    | '"' :: r => do
      let (cs, t) ← string? r
      return (.string (String.ofList cs), t)
    | '[' :: r =>
      if depth = 0 then none
      else match skip r with
        | ']' :: t => some (.array [], t)
        | r => do
          let (xs, t) ← items? fuel (depth - 1) r
          return (.array xs, t)
    | '{' :: r =>
      if depth = 0 then none
      else match skip r with
        | '}' :: t => some (.object [], t)
        | r => do
          let (fs, t) ← fields? fuel (depth - 1) r
          return (ofFields fs, t)
    | s => readNumber? s

/-- Reads the items of an array and its closing bracket. -/
def items? : (fuel depth : Nat) → List Char → Option (List Json × List Char)
  | 0, _, _ => none
  | fuel + 1, depth, s => do
    let (x, r) ← value? fuel depth s
    match skip r with
    | ']' :: t => return ([x], t)
    | ',' :: r => do
      let (xs, t) ← items? fuel depth (skip r)
      return (x :: xs, t)
    | _ => none

/-- Reads the fields of an object and its closing brace. -/
def fields? : (fuel depth : Nat) → List Char → Option (List (String × Json) × List Char)
  | 0, _, _ => none
  | _ + 1, _, [] => none
  | fuel + 1, depth, q :: s => do
    if q ≠ '"' then none
    let (k, r) ← string? s
    let r ← colon? (skip r)
    let (x, r) ← value? fuel depth (skip r)
    match skip r with
    | '}' :: t => return ([(String.ofList k, x)], t)
    | ',' :: r => do
      let (fs, t) ← fields? fuel depth (skip r)
      return ((String.ofList k, x) :: fs, t)
    | _ => none
end

/-- Reads a text that holds one document. No call reads less than a character but one in two. -/
def read? (s : List Char) : Option Json := do
  let (x, r) ← value? (2 * s.length + 2) 127 (skip s)
  if (skip r).isEmpty then some x else none

end FluentSql.Json
