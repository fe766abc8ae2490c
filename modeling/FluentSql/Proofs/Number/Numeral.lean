import FluentSql.Number.Integer
import Mathlib.Tactic.Common

/-! Decimal numerals and the integers that they are read as. A numeral is a row of digits, at least
one, behind a sign or none; a reader for a range takes just the numerals of integers that lie in it,
`readInteger_eq_ok_iff`. It gives up at the first digit that leads out of the range, which loses
nothing: further digits only lead away from zero. -/

namespace FluentSql

theorem natOfDigits_toDigits (n : Nat) : natOfDigits 0 (Nat.toDigits 10 n) = n :=
  Nat.ofDigitChars_toDigits (by decide) (by decide)

theorem isDigit_of_mem_toDigits {n : Nat} {c : Char} (h : c ∈ Nat.toDigits 10 n) :
    isDigit c = true := by
  have hc := Nat.isDigit_of_mem_toDigits (by decide) (by decide) h
  simpa [isDigit, Char.isDigit, Char.le_def] using hc

/-- The integer of a numeral. -/
inductive Numeral : List Char → Int → Prop where
  | plain {ds : List Char} : ds ≠ [] → (∀ d ∈ ds, isDigit d = true) →
      Numeral ds (natOfDigits 0 ds)
  | plus {ds : List Char} : ds ≠ [] → (∀ d ∈ ds, isDigit d = true) →
      Numeral ('+' :: ds) (natOfDigits 0 ds)
  | minus {ds : List Char} : ds ≠ [] → (∀ d ∈ ds, isDigit d = true) →
      Numeral ('-' :: ds) (-natOfDigits 0 ds)

namespace Numeral

/-- A natural number with its sign. -/
def signed (neg : Bool) (k : Nat) : Int :=
  if neg then -k else k

theorem toNat_of_isDigit {c : Char} (h : isDigit c = true) : 48 ≤ c.toNat := by
  have h0 : '0'.val.toNat = 48 := by decide
  rw [isDigit, Bool.and_eq_true, decide_eq_true_iff, Char.le_def, UInt32.le_iff_toNat_le, h0] at h
  exact h.1

theorem natOfDigits_cons (k : Nat) (d : Char) (ds : List Char) :
    natOfDigits k (d :: ds) = natOfDigits (10 * k + (d.toNat - 48)) ds := by
  rw [natOfDigits, List.foldl_cons, natOfDigits]

/-- Digits lead away from zero. -/
theorem le_natOfDigits (k : Nat) (ds : List Char) : k ≤ natOfDigits k ds := by
  induction ds generalizing k with
  | nil => exact Nat.le_refl k
  | cons d ds ih =>
    have hd := ih (10 * k + (d.toNat - 48))
    rw [natOfDigits_cons]
    omega

variable {low high : Int} {neg : Bool} {k : Nat} {n : Int} {ds : List Char}

/-- One more digit. -/
theorem signed_step {d : Char} (hd : isDigit d = true) (k : Nat) :
    10 * signed neg k + (if neg then -((d.toNat : Int) - 48) else (d.toNat : Int) - 48) =
      signed neg (10 * k + (d.toNat - 48)) := by
  have h48 := toNat_of_isDigit hd
  cases neg <;> simp only [signed, Bool.false_eq_true, if_false, if_true] <;> omega

theorem signed_bounds {a b : Nat} (hab : a ≤ b) (hlow : low ≤ 0) (hhigh : 0 ≤ high)
    (h : low ≤ signed neg b ∧ signed neg b ≤ high) :
    low ≤ signed neg a ∧ signed neg a ≤ high := by
  cases neg <;> simp only [signed, Bool.false_eq_true, if_false, if_true] at h ⊢ <;> omega

/-- A row of digits is read if it leads to a number in the range. -/
theorem readDigits_eq_ok_iff (hlow : low ≤ 0) (hhigh : 0 ≤ high)
    (hk : low ≤ signed neg k ∧ signed neg k ≤ high) :
    readDigits low high neg (signed neg k) ds = .ok n ↔
      (∀ d ∈ ds, isDigit d = true) ∧ n = signed neg (natOfDigits k ds) ∧ low ≤ n ∧ n ≤ high := by
  induction ds generalizing k with
  | nil =>
    simp only [readDigits, Except.ok.injEq, List.not_mem_nil, false_implies, implies_true, true_and]
    constructor
    · rintro rfl
      exact ⟨rfl, hk⟩
    · rintro ⟨rfl, -⟩
      rfl
  | cons d ds ih =>
    rw [List.forall_mem_cons, readDigits, natOfDigits_cons]
    by_cases hd : isDigit d = true
    · have hgrow := le_natOfDigits (10 * k + (d.toNat - 48)) ds
      simp only [hd, if_true, true_and, signed_step hd k]
      -- A prefix of a number in the range is in the range.
      have inside (h : n = signed neg (natOfDigits (10 * k + (d.toNat - 48)) ds) ∧ low ≤ n ∧
          n ≤ high) : low ≤ signed neg (10 * k + (d.toNat - 48)) ∧
            signed neg (10 * k + (d.toNat - 48)) ≤ high := by
        obtain ⟨rfl, hn⟩ := h
        exact signed_bounds hgrow hlow hhigh hn
      split
      next hlt =>
        refine iff_of_false (fun h => by cases h) ?_
        rintro ⟨-, h⟩
        have := (inside h).1
        omega
      next hge =>
        split
        next hgt =>
          refine iff_of_false (fun h => by cases h) ?_
          rintro ⟨-, h⟩
          have := (inside h).2
          omega
        next hle => exact ih ⟨by omega, by omega⟩
    · rw [if_neg hd]
      exact iff_of_false (fun h => by cases h) fun h => hd h.1.1

/-- A numeral by its sign and the digits behind it. -/
theorem iff_takeSign {s : List Char} :
    Numeral s n ↔ s ≠ [] ∧ (∀ d ∈ (takeSign s).2, isDigit d = true) ∧
      n = signed (takeSign s).1 (natOfDigits 0 (takeSign s).2) := by
  have hminus : isDigit '-' = false := by decide
  have hplus : isDigit '+' = false := by decide
  constructor
  · intro h
    cases h with
    | plus hne hds =>
      obtain ⟨c, cs, rfl⟩ := List.exists_cons_of_ne_nil hne
      exact ⟨List.cons_ne_nil _ _, hds, rfl⟩
    | minus hne hds =>
      obtain ⟨c, cs, rfl⟩ := List.exists_cons_of_ne_nil hne
      exact ⟨List.cons_ne_nil _ _, hds, rfl⟩
    | plain hne hds =>
      have hsign : takeSign s = (false, s) := by
        rw [takeSign]
        · rintro c cs rfl
          have hd := hds '-' List.mem_cons_self
          rw [hminus] at hd
          cases hd
        · rintro c cs rfl
          have hd := hds '+' List.mem_cons_self
          rw [hplus] at hd
          cases hd
      rw [hsign]
      exact ⟨hne, hds, rfl⟩
  · rintro ⟨hne, hds, rfl⟩
    unfold takeSign at hds ⊢
    split at hds
    · exact .minus (List.cons_ne_nil _ _) hds
    · exact .plus (List.cons_ne_nil _ _) hds
    · exact .plain hne hds

/-- A text is the numeral of one integer, if any. -/
theorem unique {s : List Char} {m n : Int} (hm : Numeral s m) (hn : Numeral s n) : m = n :=
  (iff_takeSign.1 hm).2.2.trans (iff_takeSign.1 hn).2.2.symm

end Numeral

/-- What a reader for a range takes, and as which integer. -/
theorem readInteger_eq_ok_iff {low high : Int} (hlow : low ≤ 0) (hhigh : 0 ≤ high) {s : List Char}
    {n : Int} : readInteger low high s = .ok n ↔ Numeral s n ∧ low ≤ n ∧ n ≤ high := by
  rw [Numeral.iff_takeSign, readInteger]
  cases s with
  | nil => simp
  | cons c cs =>
    rcases takeSign (c :: cs) with ⟨neg, ds⟩
    have hzero : Numeral.signed neg 0 = 0 := by cases neg <;> rfl
    have hdigits : readDigits low high neg 0 ds = .ok n ↔ (∀ d ∈ ds, isDigit d = true) ∧
        n = Numeral.signed neg (natOfDigits 0 ds) ∧ low ≤ n ∧ n ≤ high := by
      rw [← hzero]
      exact Numeral.readDigits_eq_ok_iff hlow hhigh (by rw [hzero]; exact ⟨hlow, hhigh⟩)
    simp only [List.isEmpty_cons, Bool.false_eq_true, if_false]
    rw [hdigits]
    simp only [ne_eq, List.cons_ne_nil, not_false_eq_true, true_and, and_assoc]

/-- The integers of 64 bits are read from their numerals, and nothing else is. -/
theorem readInt64_eq_ok_iff {s : List Char} {n : Int64} :
    readInt64 s = .ok n ↔ Numeral s n.toInt := by
  have hlow : Int64.minValue.toInt = -2 ^ 63 := Int64.toInt_minValue
  have hhigh : Int64.maxValue.toInt = 2 ^ 63 - 1 := Int64.toInt_maxValue
  have hrange (m : Int) : readInteger Int64.minValue.toInt Int64.maxValue.toInt s = .ok m ↔
      Numeral s m ∧ Int64.minValue.toInt ≤ m ∧ m ≤ Int64.maxValue.toInt :=
    readInteger_eq_ok_iff (by omega) (by omega)
  rw [readInt64]
  constructor
  · intro h
    cases hr : readInteger Int64.minValue.toInt Int64.maxValue.toInt s with
    | error e =>
      rw [hr] at h
      cases h
    | ok m =>
      rw [hr] at h
      cases h
      obtain ⟨hm, hl, hh⟩ := (hrange m).1 hr
      have htoInt : (Int64.ofInt m).toInt = m :=
        Int64.toInt_ofInt_of_le (by omega) (by omega)
      rw [htoInt]
      exact hm
  · intro h
    rw [(hrange n.toInt).2 ⟨h, Int64.minValue_le_toInt n, Int64.toInt_le n⟩]
    exact congrArg Except.ok (Int64.ofInt_toInt n)

/-- So are the natural numbers of 64 bits. -/
theorem readUInt64_eq_ok_iff {s : List Char} {n : UInt64} :
    readUInt64 s = .ok n ↔ Numeral s n.toNat := by
  have hrange (m : Int) : readInteger 0 (UInt64.size - 1) s = .ok m ↔
      Numeral s m ∧ 0 ≤ m ∧ m ≤ (UInt64.size : Int) - 1 :=
    readInteger_eq_ok_iff (Int.le_refl 0) (by decide)
  have hn : (n.toNat : Int) ≤ (UInt64.size : Int) - 1 := by
    have hlt := n.toNat_lt_size
    omega
  rw [readUInt64]
  constructor
  · intro h
    cases hr : readInteger 0 (UInt64.size - 1) s with
    | error e =>
      rw [hr] at h
      cases h
    | ok m =>
      rw [hr] at h
      cases h
      obtain ⟨hm, hl, hh⟩ := (hrange m).1 hr
      have htoNat : (UInt64.ofNat m.toNat).toNat = m.toNat :=
        UInt64.toNat_ofNat_of_lt' (by omega)
      rw [htoNat, Int.toNat_of_nonneg hl]
      exact hm
  · intro h
    rw [(hrange n.toNat).2 ⟨h, Int.natCast_nonneg _, hn⟩]
    exact congrArg Except.ok UInt64.ofNat_toNat

end FluentSql
