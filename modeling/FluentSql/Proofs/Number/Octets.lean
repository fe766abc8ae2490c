import FluentSql.Number.Octets

/-! Whole numbers to octets and back. Numbers that a width has room for are read back as they were,
without sign, `ofBig_big`, and with it, `intOfLittle_littleInt` and `intOfBig_bigInt`; all octets of
the width are such numbers, `big_ofBig` and `bigInt_intOfBig`. -/

namespace FluentSql.Octets

theorem ofLittle_little (width n : Nat) : ofLittle (little width n) = n % span width := by
  induction width generalizing n with
  | zero => exact (Nat.mod_one n).symm
  | succ w ih =>
    have hspan : span (w + 1) = 256 * span w := Nat.pow_succ'
    rw [little, ofLittle, ih, UInt8.toNat_ofNat', hspan, Nat.mod_mul]

theorem ofBig_big {width n : Nat} (h : n < span width) : ofBig (big width n) = n := by
  rw [ofBig, big, List.reverse_reverse, ofLittle_little, Nat.mod_eq_of_lt h]

/-- The number that stands for a signed one is the one itself, or as much below the span. -/
theorem unsigned_eq {width : Nat} {n : Int} (h : -(span width : Int) ≤ n) (h' : n < span width) :
    (unsigned width n : Int) = if 0 ≤ n then n else n + span width := by
  rw [unsigned, Int.toNat_of_nonneg (Int.emod_nonneg _ (by omega))]
  split
  next hn => exact Int.emod_eq_of_lt hn h'
  next hn => rw [← Int.add_emod_right, Int.emod_eq_of_lt (by omega) (by omega)]

theorem intOfLittle_littleInt {width : Nat} {n : Int} (h : -(span width : Int) ≤ 2 * n)
    (h' : 2 * n < span width) : intOfLittle (littleInt width n) = n := by
  have hu : (unsigned width n : Int) = if 0 ≤ n then n else n + span width :=
    unsigned_eq (by omega) (by omega)
  have hlt : unsigned width n < span width := by
    split at hu <;> omega
  rw [intOfLittle, littleInt, length_little, ofLittle_little, Nat.mod_eq_of_lt hlt, signed]
  split at hu <;> split <;> omega

theorem intOfBig_bigInt {width : Nat} {n : Int} (h : -(span width : Int) ≤ 2 * n)
    (h' : 2 * n < span width) : intOfBig (bigInt width n) = n := by
  rw [intOfBig, ofBig, bigInt, big, List.reverse_reverse, List.length_reverse]
  exact intOfLittle_littleInt h h'

/-- A number without sign is written as it is. -/
theorem ofLittle_littleInt {width : Nat} {n : Int} (h : 0 ≤ n) (h' : n < span width) :
    (ofLittle (littleInt width n) : Int) = n := by
  have hu : (unsigned width n : Int) = n := by
    rw [unsigned_eq (by omega) h', if_pos h]
  rw [littleInt, ofLittle_little, Nat.mod_eq_of_lt (by omega), hu]

/-! ### Octets -/

theorem ofLittle_lt (bs : List UInt8) : ofLittle bs < span bs.length := by
  induction bs with
  | nil => exact Nat.zero_lt_one
  | cons b bs ih =>
    have hb := b.toNat_lt
    have hspan : span (b :: bs).length = 256 * span bs.length := Nat.pow_succ'
    rw [ofLittle, hspan]
    omega

theorem little_ofLittle (bs : List UInt8) : little bs.length (ofLittle bs) = bs := by
  induction bs with
  | nil => rfl
  | cons b bs ih =>
    have hb := b.toNat_lt
    have hlow : UInt8.ofNat (b.toNat + 256 * ofLittle bs) = b := by
      rw [← UInt8.toNat_inj, UInt8.toNat_ofNat']
      omega
    have hhigh : (b.toNat + 256 * ofLittle bs) / 256 = ofLittle bs := by omega
    rw [List.length_cons, ofLittle, little, hlow, hhigh, ih]

theorem ofBig_lt (bs : List UInt8) : ofBig bs < span bs.length := by
  rw [← List.length_reverse]
  exact ofLittle_lt bs.reverse

theorem big_ofBig (bs : List UInt8) : big bs.length (ofBig bs) = bs := by
  rw [big, ofBig, ← List.length_reverse, little_ofLittle, List.reverse_reverse]

theorem unsigned_of_lt {width n : Nat} (h : n < span width) : unsigned width n = n := by
  rw [unsigned, Int.emod_eq_of_lt (by omega) (by omega), Int.toNat_natCast]

theorem unsigned_signed {width n : Nat} (h : n < span width) :
    unsigned width (signed width n) = n := by
  rw [signed]
  split
  next => exact unsigned_of_lt h
  next =>
    have hn : ((n : Int) - span width) % span width = n := by
      rw [Int.sub_emod_right, Int.emod_eq_of_lt (by omega) (by omega)]
    rw [unsigned, hn, Int.toNat_natCast]

theorem bigInt_intOfBig (bs : List UInt8) : bigInt bs.length (intOfBig bs) = bs := by
  rw [bigInt, intOfBig, unsigned_signed (ofBig_lt bs), big_ofBig]

/-- The number of octets lies in the lower or the upper half of their span. -/
theorem intOfBig_bounds (bs : List UInt8) :
    -(span bs.length : Int) ≤ 2 * intOfBig bs ∧ 2 * intOfBig bs < span bs.length := by
  have h := ofBig_lt bs
  rw [intOfBig, signed]
  split <;> omega

end FluentSql.Octets
