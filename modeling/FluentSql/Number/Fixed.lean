import FluentSql.Number.Binary
import FluentSql.Number.Integer

/-! Decimal numbers of fixed precision: a sign, a coefficient of 96 bits and at most 28 places
behind the point. They are read from text, made from a double, brought to a number of places and
written out. Zero keeps its sign and its places. -/

namespace FluentSql

/-- `coefficient / 10 ^ places`, with its sign. -/
structure Fixed where
  negative : Bool
  coefficient : Nat
  places : Nat
  deriving DecidableEq, Repr

namespace Fixed

/-- Coefficients are below this. -/
def bound : Nat := Nat.pow 2 96

def maxPlaces : Nat := 28

def ofInt (n : Int) : Fixed :=
  ⟨n < 0, n.natAbs, 0⟩

/-! ### Places -/

/-- More places, as many as the coefficient has room for. -/
def widen : (n : Nat) → Fixed → Fixed
  | 0, x => x
  | n + 1, x =>
    if 10 * x.coefficient < bound then widen n ⟨x.negative, 10 * x.coefficient, x.places + 1⟩ else x

/-- A coefficient without its last `n` digits, rounded; a half goes away from zero. -/
def dropDigits (n c : Nat) : Nat :=
  (c + Nat.pow 10 n / 2) / Nat.pow 10 n

/-- The number at a number of places. -/
def rescale (places : Nat) (x : Fixed) : Fixed :=
  let places := min places maxPlaces
  if x.coefficient = 0 then ⟨x.negative, 0, places⟩
  else if x.places ≤ places then widen (places - x.places) x
  else ⟨x.negative, dropDigits (x.places - places) x.coefficient, places⟩

/-- A number with `places` digits behind the point as a fixed one, with as many of them as the
coefficient has room for; none if not even the whole part fits. -/
def fit? (negative : Bool) (c : Nat) : (places : Nat) → (dropped : Nat) → Option Fixed
  | 0, k =>
    let c := Binary.roundEven c (Nat.pow 10 k)
    if c < bound then some ⟨negative, c, 0⟩ else none
  | places + 1, k =>
    let d := Binary.roundEven c (Nat.pow 10 k)
    if d < bound then some ⟨negative, d, places + 1⟩ else fit? negative c places (k + 1)

/-- The coefficient increased by `n` units of a place behind the point, at as many places as it has
room for. -/
def plus? (x : Fixed) (n place : Nat) : Option Fixed :=
  let places := max x.places place
  fit? x.negative (x.coefficient * Nat.pow 10 (places - x.places) + n * Nat.pow 10 (places - place))
    places 0

/-! ### Text -/

def text (x : Fixed) : String :=
  let ds := Nat.toDigits 10 x.coefficient
  let ds := List.replicate (x.places + 1 - ds.length) '0' ++ ds
  let whole := ds.length - x.places
  String.ofList ((if x.negative then ['-'] else []) ++ ds.take whole ++
    if x.places = 0 then [] else '.' :: ds.drop whole)

/-- The coefficient rounded by the character behind its last digit, a half upward. A rounding that
leaves the range gives up a place. -/
def roundBy? (c places : Nat) (next : Char) : Option (Nat × Nat) :=
  if isDigit next ∨ next = '_' ∨ next = '.' then
    if '5' ≤ next ∧ next ≤ '9' then
      if c + 1 < bound then some (c + 1, places)
      else if places = 0 then none else some ((c + 5) / 10, places - 1)
    else some (c, places)
  else none

/-- Reads the digits of a number from a point on: `point` and `digit` say whether a point and a
digit have been seen. Underscores may stand behind a digit. Digits that find no room behind the
point round those before them. -/
def readDigits? (point digit : Bool) (c places : Nat) : List Char → Option (Nat × Nat)
  | [] => if digit then some (c, places) else none
  | x :: xs =>
    if point && maxPlaces ≤ places then roundBy? c places x
    else if isDigit x then
      let d := 10 * c + (x.toNat - 48)
      if d < bound then readDigits? point true d (if point then places + 1 else places) xs
      else if point then roundBy? c places x else none
    else if x = '.' ∧ !point then readDigits? true digit c places xs
    else if x = '_' ∧ digit then readDigits? point digit c places xs
    else none

/-- Moves the point of a number to the right, `shift` places. -/
def shift? (negative : Bool) (c places : Nat) (shift : Int) : Option Fixed :=
  let places : Int := places - shift
  if 0 ≤ places then
    let n := places.toNat
    some (if n ≤ maxPlaces then ⟨negative, c, n⟩
      else ⟨negative, dropDigits (n - maxPlaces) c, maxPlaces⟩)
  else if c = 0 then some ⟨negative, 0, 0⟩
  else if maxPlaces < (-places).toNat then none
  else
    let c := c * Nat.pow 10 (-places).toNat
    if c < bound then some ⟨negative, c, 0⟩ else none

/-- Reads a number: a sign, digits with a point among them, and an exponent. -/
def read? (s : List Char) : Option Fixed := do
  let (negative, s) := match s with
    | '-' :: cs => (true, cs)
    | '+' :: cs => (false, cs)
    | cs => (false, cs)
  let base := s.takeWhile fun c => c != 'e' && c != 'E'
  let (c, places) ← readDigits? false false 0 0 base
  match s.drop base.length with
  | [] => return ⟨negative, c, places⟩
  | _ :: e =>
    let shift ← (readInteger (-32768) 32768 e).toOption
    shift? negative c places shift

/-! ### From a double

The value `m * 2 ^ e` is `m * 5 ^ (-e) * 10 ^ e`: the power of five is multiplied into the
coefficient or divided out of it, and where that finds no room, a factor of two or five is given up
against the decimal exponent. -/

/-- Multiplies by `5 ^ n`, the decimal exponent beside it. -/
def timesFives : (n : Nat) → Nat → Int → Nat × Int
  | 0, m, e => (m, e)
  | n + 1, m, e =>
    if m % 2 = 0 then timesFives n (m / 2) (e + 1)
    else if 5 * m < bound then timesFives n (5 * m) e
    else timesFives n (m / 2) (e + 1)

/-- Divides by `5 ^ n`. -/
def overFives? : (n : Nat) → Nat → Int → Option (Nat × Int)
  | 0, m, e => some (m, e)
  | n + 1, m, e =>
    if 2 * m < bound then overFives? n (2 * m) (e - 1)
    else if n + 1 < 2 * e then none
    else overFives? n (m / 5) e

/-- Multiplies by `10 ^ n`. -/
def timesTens? : (n : Nat) → Nat → Option Nat
  | 0, m => some m
  | n + 1, m => if 10 * m < bound then timesTens? n (10 * m) else none

/-- A coefficient without its last digit, rounded half upward. -/
def dropDigit (m : Nat) : Nat :=
  if 5 ≤ m % 10 then m / 10 + 1 else m / 10

/-- Drops `n` digits one after the other, until nothing is left. -/
def dropToPlaces : (n : Nat) → (places : Nat) → Nat → Nat × Nat
  | 0, places, m => (m, places)
  | n + 1, places, m =>
    if m / 10 = 0 then (0, 0) else dropToPlaces n (places - 1) (dropDigit m)

/-- Drops places until the coefficient has no more bits than a double holds. -/
def dropToDouble : (places : Nat) → Nat → Nat × Nat
  | 0, m => (m, 0)
  | places + 1, m =>
    if Nat.pow 2 52 ≤ m then dropToDouble places (dropDigit m) else (m, places + 1)

/-- Drops zeros behind the point. -/
def dropZeros : (places : Nat) → Nat → Nat × Nat
  | 0, m => (m, 0)
  | places + 1, m => if m % 10 = 0 then dropZeros places (m / 10) else (m, places + 1)

/-- The fixed number nearest to a double, of about fifteen digits; none if the double is too large
or not finite. -/
def ofDouble? (x : Double) : Option Fixed := do
  let .finite m e := x.parts | none
  if m = 0 then return ⟨x.negative, 0, 0⟩
  let (m, e) ←
    if e < 0 then some (timesFives (-e).toNat m e) else overFives? e.toNat m e
  let m ← timesTens? e.toNat m
  let places := (-e).toNat
  let (m, places) := dropToPlaces (places - maxPlaces) places m
  let (m, places) := dropToDouble places m
  let (m, places) := dropZeros places m
  return ⟨x.negative, m, places⟩

end Fixed

end FluentSql
