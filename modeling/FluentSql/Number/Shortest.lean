import FluentSql.Number.Binary

/-! The shortest decimal of a double: among the decimals that round to the double, those with the
fewest digits, and of these the nearest to its exact value; a tie goes to the even digit. The
decimals that round to `m * 2 ^ e` fill the interval between the midpoints to the two neighbouring
doubles, the ends included when `m` is even. For one digit, two digits and so on up to seventeen,
the two neighbours of the value on the grid of that many digits are tried against the interval. -/

namespace FluentSql

/-- `digits * 10 ^ exponent`. -/
structure Decimal where
  digits : Nat
  exponent : Int
  deriving DecidableEq, Repr

namespace Shortest

/-- The exponent of the leading decimal digit of `num / den`. -/
def leading (num den : Nat) : Int :=
  if den ≤ num then (Nat.toDigits 10 (num / den)).length - 1
  else -((Nat.toDigits 10 ((den - 1) / num)).length : Int)

/-- An interval of ratios over one denominator, with the value inside it. -/
structure Interval where
  low : Nat
  value : Nat
  high : Nat
  den : Nat
  closed : Bool

/-- The decimals that round to `m * 2 ^ e`. The gap below a power of two is half as wide, except
below the least normal number. -/
def interval (m : Nat) (e : Int) : Interval :=
  let below := if m = 4503599627370496 ∧ Binary.double.least < e then 1 else 2
  let scale (n : Nat) := n * Nat.pow 2 (e - 2).toNat
  ⟨scale (4 * m - below), scale (4 * m), scale (4 * m + 2), Nat.pow 2 (2 - e).toNat, m % 2 == 0⟩

/-- Whether `c * 10 ^ k` lies in the interval. -/
def Interval.contains (i : Interval) (c : Nat) (k : Int) : Bool :=
  let n := c * Nat.pow 10 k.toNat * i.den
  let s := Nat.pow 10 (-k).toNat
  if i.closed then i.low * s ≤ n && n ≤ i.high * s else i.low * s < n && n < i.high * s

/-- The neighbour of the value on the grid of `10 ^ k` that lies in the interval, the nearer one
first. -/
def Interval.onGrid? (i : Interval) (k : Int) : Option Nat :=
  let n := i.value * Nat.pow 10 (-k).toNat
  let d := i.den * Nat.pow 10 k.toNat
  let q := n / d
  let near := Binary.roundEven n d
  let far := if near = q then q + 1 else q
  if i.contains near k then some near else if i.contains far k then some far else none

/-- Tries the grids of `n` digits, `n + 1` and so on, `fuel` of them. -/
def search (i : Interval) (top : Int) : (fuel : Nat) → (n : Nat) → Decimal
  | 0, n => ⟨Binary.roundEven (i.value * Nat.pow 10 (n - 1 - top).toNat)
      (i.den * Nat.pow 10 (top + 1 - n).toNat), top + 1 - n⟩
  | fuel + 1, n =>
    let k := top + 1 - n
    match i.onGrid? k with
    | some c => ⟨c, k⟩
    | none => search i top fuel (n + 1)

end Shortest

namespace Decimal

/-- Drops the last `n` digits as long as they are zero. -/
def dropZeros : (n : Nat) → Decimal → Decimal
  | 0, d => d
  | n + 1, d => if d.digits % 10 = 0 then dropZeros n ⟨d.digits / 10, d.exponent + 1⟩ else d

/-- The shortest decimal that rounds to `m * 2 ^ e`. -/
def shortest (m : Nat) (e : Int) : Decimal :=
  if m = 0 then ⟨0, 0⟩
  else
    let i := Shortest.interval m e
    dropZeros 17 (Shortest.search i (Shortest.leading i.value i.den) 16 1)

end Decimal

/-- The layouts of a decimal as text: which exponents of the leading digit are written without
exponent, and whether a whole number gets a zero behind the point. -/
structure DecimalLayout where
  positional : Int → Bool
  pointZero : Bool

namespace DecimalLayout

/-- The digits with the point at its place, and zeros between. -/
def place (l : DecimalLayout) (ds : List Char) (exponent : Int) : List Char :=
  let whole := ds.length + exponent
  if 0 ≤ exponent then
    ds ++ List.replicate exponent.toNat '0' ++ (if l.pointZero then ['.', '0'] else [])
  else if 0 < whole then ds.take whole.toNat ++ '.' :: ds.drop whole.toNat
  else '0' :: '.' :: (List.replicate (-whole).toNat '0' ++ ds)

/-- One digit, the others behind a point, and the exponent with its sign. -/
def scientific (ds : List Char) (top : Int) : List Char :=
  (match ds with
    | [] => []
    | [d] => [d]
    | d :: ds => d :: '.' :: ds) ++
  'e' :: (if top < 0 then '-' else '+') :: Nat.toDigits 10 top.natAbs

def text (l : DecimalLayout) (neg : Bool) (d : Decimal) : String :=
  let ds := Nat.toDigits 10 d.digits
  let top := d.exponent + (ds.length - 1 : Nat)
  String.ofList ((if neg then ['-'] else []) ++
    if l.positional top then l.place ds d.exponent else scientific ds top)

end DecimalLayout

/-- The shortest text of a finite double in a layout; nothing for the others. -/
def Double.text? (l : DecimalLayout) (x : Double) : Option String :=
  match x.parts with
  | .finite m e => some (l.text x.negative (Decimal.shortest m e))
  | _ => none

end FluentSql
