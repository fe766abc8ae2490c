import FluentSql.Number.Fixed
import FluentSql.Number.Octets

/-! Decimal numbers on the wire: a count of groups of four decimal digits, the weight of the first
group, a sign, the number of places behind the point, and the groups. A group of weight `w` counts
`10000 ^ w`. Reading rounds at the twenty-eighth place. -/

namespace FluentSql.Postgres.Numeric

/-- What the wire carries. -/
structure Wire where
  weight : Int
  sign : Nat
  scale : Nat
  groups : List Nat
  deriving DecidableEq, Repr

def negativeSign : Nat := 0x4000

/-! ### Writing -/

/-- The groups of four digits of a number, the last first. -/
def groupsBack (n : Nat) : List Nat :=
  if _h : n = 0 then [] else n % 10000 :: groupsBack (n / 10000)
termination_by n

/-- A fixed number in groups. Zero groups at the end of the fraction are left out, unless the first
group stands behind the point. -/
def ofFixed (x : Fixed) : Wire :=
  if x.coefficient = 0 then ⟨0, 0, 0, []⟩
  else
    let fraction := (x.places + 3) / 4
    let back := groupsBack (x.coefficient * Nat.pow 10 (4 * fraction - x.places))
    let weight : Int := back.length - fraction - 1
    let zeros := if 0 ≤ weight then ((back.take fraction).takeWhile (· == 0)).length else 0
    ⟨weight, if x.negative then negativeSign else 0, x.places, (back.drop zeros).reverse⟩

def Wire.octets (w : Wire) : List UInt8 :=
  Octets.big 2 w.groups.length ++ Octets.bigInt 2 w.weight ++ Octets.big 2 w.sign ++
    Octets.big 2 w.scale ++ w.groups.flatMap (Octets.big 2)

def encode (x : Fixed) : List UInt8 :=
  (ofFixed x).octets

/-! ### Reading -/

/-- Groups of two octets, so many of them; what follows is left. -/
def groups? : Nat → List UInt8 → Option (List Nat)
  | 0, _ => some []
  | n + 1, a :: b :: bs => (Octets.ofBig [a, b] :: ·) <$> groups? n bs
  | _ + 1, _ => none

def Wire.ofOctets? : List UInt8 → Option Wire
  | n₁ :: n₀ :: w₁ :: w₀ :: s₁ :: s₀ :: d₁ :: d₀ :: bs => do
    let groups ← groups? (Octets.ofBig [n₁, n₀]) bs
    return ⟨Octets.intOfBig [w₁, w₀], Octets.ofBig [s₁, s₀], Octets.ofBig [d₁, d₀], groups⟩
  | _ => none

/-- A number with the groups from one of a weight on added to it, one after the other. The group
right behind the last place rounds it, those further on do not count. -/
def addGroups? (weight : Int) (x : Fixed) : List Nat → Option Fixed
  | [] => some x
  | g :: gs => do
    let x ←
      if 0 ≤ weight then x.plus? (g * Nat.pow 10 (4 * weight).toNat) 0
      else if -7 ≤ weight then x.plus? g (-4 * weight).toNat
      else if weight = -8 ∧ 5000 ≤ g then x.plus? 1 Fixed.maxPlaces
      else some x
    addGroups? (weight - 1) x gs

/-- Not a number and the infinities have signs of their own. -/
def isNumber (sign : Nat) : Bool :=
  sign != 0xC000 && sign != 0xD000 && sign != 0xF000

/-- A bound on weights that leaves room for every fixed number. -/
def maxWeight : Int := 7

/-- The fixed number of groups, at the number of places that the wire tells. -/
def Wire.fixed? (w : Wire) : Option Fixed :=
  let groups := w.groups.dropWhile (· == 0)
  let weight := w.weight - (w.groups.length - groups.length : Nat)
  if !isNumber w.sign ∨ (maxWeight < weight ∧ groups ≠ []) then none
  else Fixed.rescale w.scale <$> addGroups? weight ⟨w.sign == negativeSign, 0, 0⟩ groups

def decode? (bs : List UInt8) : Option Fixed :=
  Wire.ofOctets? bs >>= Wire.fixed?

end FluentSql.Postgres.Numeric
