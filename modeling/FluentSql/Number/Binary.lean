/-! Binary floating point on exact integers. A format has a number of fraction bits and a number of
exponent bits; a value is its bit pattern. A pattern is read into an integer times a power of two,
and a ratio is rounded to the nearest pattern, a tie going to the even one. Nothing here is
approximate: both directions are arithmetic on naturals. -/

namespace FluentSql.Binary

structure Format where
  fraction : Nat
  exponent : Nat

def single : Format := ⟨23, 8⟩

def double : Format := ⟨52, 11⟩

namespace Format

variable (f : Format)

/-- The exponent of the least positive value, a power of two. -/
def least : Int :=
  2 - Nat.pow 2 (f.exponent - 1) - f.fraction

/-- The pattern of infinity; larger ones below the sign bit are not numbers. -/
def infinity : Nat :=
  (Nat.pow 2 f.exponent - 1) * Nat.pow 2 f.fraction

/-- The weight of the sign bit. -/
def signBit : Nat :=
  Nat.pow 2 (f.fraction + f.exponent)

end Format

/-- What a bit pattern stands for: `m * 2 ^ e`, an infinity, or no number, with the fraction bits.
-/
inductive Parts where
  | finite (m : Nat) (e : Int)
  | infinite
  | nan (fraction : Nat)
  deriving DecidableEq, Repr

/-- The parts of the magnitude of a pattern. -/
def parts (f : Format) (bits : Nat) : Parts :=
  let low := bits % Nat.pow 2 f.fraction
  let biased := bits / Nat.pow 2 f.fraction % Nat.pow 2 f.exponent
  if biased = Nat.pow 2 f.exponent - 1 then
    if low = 0 then .infinite else .nan low
  else if biased = 0 then .finite low f.least
  else .finite (low + Nat.pow 2 f.fraction) (f.least + (biased - 1))

def negative (f : Format) (bits : Nat) : Bool :=
  bits / f.signBit % 2 == 1

def signed (f : Format) (neg : Bool) (magnitude : Nat) : Nat :=
  if neg then f.signBit + magnitude else magnitude

/-- `num / den` rounded to an integer, a tie to the even one. -/
def roundEven (num den : Nat) : Nat :=
  let q := num / den
  let r := num % den
  if 2 * r < den ∨ (2 * r = den ∧ q % 2 = 0) then q else q + 1

/-- `num / den` in units of `2 ^ e`, as a ratio. -/
def inUnits (num den : Nat) (e : Int) : Nat × Nat :=
  if 0 ≤ e then (num, den * Nat.pow 2 e.toNat) else (num * Nat.pow 2 (-e).toNat, den)

/-- The magnitude pattern nearest to `num / den`; too large a ratio becomes infinity. The patterns
of consecutive magnitudes are consecutive numbers, so that a mantissa rounded up to the next power
of two needs no case of its own. -/
def nearest (f : Format) (num den : Nat) : Nat :=
  if num = 0 then 0
  else
    let width : Int := Nat.log2 num - Nat.log2 den
    let low := max f.least (width - f.fraction - 1)
    let (n, d) := inUnits num den low
    let e := if Nat.pow 2 (f.fraction + 1) ≤ n / d then low + 1 else low
    let (n, d) := inUnits num den e
    min f.infinity ((e - f.least).toNat * Nat.pow 2 f.fraction + roundEven n d)

/-- The magnitude pattern nearest to `m * 2 ^ e`. -/
def nearestPower (f : Format) (m : Nat) (e : Int) : Nat :=
  if 0 ≤ e then nearest f (m * Nat.pow 2 e.toNat) 1 else nearest f m (Nat.pow 2 (-e).toNat)

/-- A pattern of one format as the nearest of another. A pattern that is no number keeps its leading
fraction bits and becomes quiet. -/
def convert (a b : Format) (bits : Nat) : Nat :=
  signed b (negative a bits) <| match parts a bits with
    | .finite m e => nearestPower b m e
    | .infinite => b.infinity
    | .nan low =>
      let quiet := Nat.pow 2 (b.fraction - 1)
      let moved := low * Nat.pow 2 b.fraction / Nat.pow 2 a.fraction
      b.infinity + (quiet + moved % quiet)

end FluentSql.Binary

namespace FluentSql

/-- A double-precision number, by its bits. -/
structure Double where
  bits : UInt64
  deriving DecidableEq, Repr, Inhabited

namespace Double

open Binary

def parts (x : Double) : Parts :=
  Binary.parts double x.bits.toNat

def negative (x : Double) : Bool :=
  Binary.negative double x.bits.toNat

/-- Neither infinite nor without a value. -/
def isFinite (x : Double) : Bool :=
  match x.parts with
  | .finite _ _ => true
  | _ => false

def ofMagnitude (neg : Bool) (magnitude : Nat) : Double :=
  ⟨UInt64.ofNat (signed double neg magnitude)⟩

def zero (neg : Bool) : Double :=
  ofMagnitude neg 0

/-- The double nearest to `num / den`. -/
def ofRatio (neg : Bool) (num den : Nat) : Double :=
  ofMagnitude neg (nearest double num den)

def ofInt (n : Int) : Double :=
  ofRatio (n < 0) n.natAbs 1

/-- The double equal to a single-precision number. -/
def ofSingle (bits : UInt32) : Double :=
  ⟨UInt64.ofNat (convert single double bits.toNat)⟩

/-- The single-precision number nearest to a double. -/
def toSingle (x : Double) : UInt32 :=
  UInt32.ofNat (convert double single x.bits.toNat)

/-- The single-precision number nearest to an integer. -/
def singleOfInt (n : Int) : UInt32 :=
  UInt32.ofNat (signed single (n < 0) (nearest single n.natAbs 1))

end Double

end FluentSql
