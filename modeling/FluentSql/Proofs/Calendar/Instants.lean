import FluentSql.Proofs.Calendar.Text

/-! Moments as numbers. Every microsecond of a day is a time of day in its ranges. A date of
four-digit years and a microsecond of its day make a number that eight octets have room for, and
from this number the moment comes back as it was, and the number from the moment,
`Moment.ofMicros?_toDays` and `Moment.toMicros_ofMicros`. -/

namespace FluentSql

namespace Clock

variable {n : Nat}

theorem ofMicros_valid (h : n < dayMicros) : (ofMicros n).Valid := by
  have hn : n < 86400000000 := h
  have hnanos : n % 1000000 * 1000 < 1000000000 := by omega
  refine ⟨?_, ?_, ?_, hnanos⟩
  · show n / 1000000 / 3600 ≤ 23
    omega
  · show n / 1000000 / 60 % 60 ≤ 59
    omega
  · show n / 1000000 % 60 ≤ 60
    omega

theorem toNanos_ofMicros (n : Nat) : (ofMicros n).toNanos = n * 1000 := by
  have hsecond : (60 * (n / 1000000 / 3600) + n / 1000000 / 60 % 60) * 60 + n / 1000000 % 60 =
      n / 1000000 := by omega
  have hparts : n / 1000000 * 1000000000 + n % 1000000 * 1000 = n * 1000 := by omega
  simp only [toNanos, ofMicros, hsecond, secondNanos, hparts]

end Clock

/-! ### Days of four-digit years -/

theorem Date.daysBefore_bounds {year : Int} (h : -1 ≤ year) (h' : year ≤ 9999) :
    -366 ≤ daysBefore year ∧ daysBefore year ≤ 3652059 := by
  rw [daysBefore]
  omega

theorem Date.Common.toDays_bounds {d : Date} (h : d.Common) :
    -1000000 ≤ d.toDays ∧ d.toDays ≤ 3000000 := by
  obtain ⟨-, -, hday, -⟩ := isValid_iff.1 h.valid
  have hyear : -1 ≤ d.marchYear ∧ d.marchYear ≤ 9999 := by
    have hlow := h.year_nonneg
    have hhigh := h.year_le
    rw [marchYear]
    split <;> omega
  have hbefore := daysBefore_bounds hyear.1 hyear.2
  have hlt := marchDay_lt h.valid
  have hlength := lengthOf_bounds d.marchYear
  have hdays := toDays_eq hday
  rw [origin] at hdays
  omega

/-! ### Moments -/

namespace Moment

variable {d : Date} {n : Nat}

theorem micros_parts (days : Int) (h : n < Clock.dayMicros) :
    (days * Clock.dayMicros + n) / Clock.dayMicros = days ∧
      ((days * Clock.dayMicros + n) % Clock.dayMicros).toNat = n := by
  have hday : (Clock.dayMicros : Int) = 86400000000 := rfl
  have hn : n < 86400000000 := h
  rw [hday]
  omega

/-- The moment of a number of microseconds. -/
theorem ofMicros?_toDays (hd : d.Common) (h : n < Clock.dayMicros) :
    ofMicros? (d.toDays * Clock.dayMicros + n) = some ⟨d, .ofMicros n⟩ := by
  obtain ⟨hdiv, hmod⟩ := micros_parts d.toDays h
  rw [ofMicros?, hdiv, hmod, Date.ofDays?_toDays hd.valid]
  rfl

/-- The number of microseconds of a moment. -/
theorem toMicros_ofMicros (d : Date) (n : Nat) :
    (⟨d, .ofMicros n⟩ : Moment).toMicros = d.toDays * Clock.dayMicros + n := by
  have hnanos : d.toDays * Clock.dayNanos + ((Clock.ofMicros n).toNanos : Int) =
      (d.toDays * Clock.dayMicros + n) * 1000 := by
    have hday : (Clock.dayNanos : Int) = Clock.dayMicros * 1000 := rfl
    rw [Clock.toNanos_ofMicros, hday, Int.natCast_mul, Int.add_mul, Int.mul_assoc]
    rfl
  rw [toMicros, hnanos, Int.mul_tdiv_cancel _ (by decide)]

/-- Eight octets have room for the microseconds. -/
theorem micros_bounds (hd : d.Common) (h : n < Clock.dayMicros) :
    -0x8000000000000000 ≤ d.toDays * Clock.dayMicros + n ∧
      d.toDays * Clock.dayMicros + n < 0x8000000000000000 := by
  obtain ⟨hlow, hhigh⟩ := hd.toDays_bounds
  have hday : (Clock.dayMicros : Int) = 86400000000 := rfl
  have hn : n < 86400000000 := h
  rw [hday]
  omega

end Moment

end FluentSql
