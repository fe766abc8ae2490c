/-! Whole numbers as octets, the least significant octet first or last. A signed number is written
modulo the power of 256 that its octets span, and read back from the lower or the upper half of that
span. -/

namespace FluentSql.Octets

/-- The last octets of a number, so many of them, the least significant first. -/
def little : (width : Nat) → Nat → List UInt8
  | 0, _ => []
  | w + 1, n => UInt8.ofNat n :: little w (n / 256)

/-- The number of octets of which the first is the least significant. -/
def ofLittle : List UInt8 → Nat
  | [] => 0
  | b :: bs => b.toNat + 256 * ofLittle bs

def big (width n : Nat) : List UInt8 :=
  (little width n).reverse

def ofBig (bs : List UInt8) : Nat :=
  ofLittle bs.reverse

theorem length_little (width n : Nat) : (little width n).length = width := by
  induction width generalizing n with
  | zero => rfl
  | succ w ih => simp [little, ih]

theorem length_big (width n : Nat) : (big width n).length = width := by
  simp [big, length_little]

/-! ### Signed numbers -/

/-- How many numbers a width has room for. -/
def span (width : Nat) : Nat :=
  Nat.pow 256 width

/-- The number without sign that stands for a signed one. -/
def unsigned (width : Nat) (n : Int) : Nat :=
  (n % span width).toNat

/-- The signed number for which one without sign stands. -/
def signed (width n : Nat) : Int :=
  if 2 * n < span width then n else n - span width

def littleInt (width : Nat) (n : Int) : List UInt8 :=
  little width (unsigned width n)

def bigInt (width : Nat) (n : Int) : List UInt8 :=
  big width (unsigned width n)

def intOfLittle (bs : List UInt8) : Int :=
  signed bs.length (ofLittle bs)

def intOfBig (bs : List UInt8) : Int :=
  signed bs.length (ofBig bs)

end FluentSql.Octets
