import FluentSql.Calendar.Date
import Mathlib.Tactic.IntervalCases

/-! Dates and their days. A year that begins in March has 365 days, or 366 if the February that ends
it has a leap day, so that a day lies in one year only. The divisions that look for this year find
it, those for the month find that one, and every date comes back from its distance to the beginning
of 2000, `ofDays?_toDays`. -/

namespace FluentSql.Date

/-! ### Years that begin in March -/

/-- The leap day of such a year is that of the calendar year behind it. -/
def lengthOf (year : Int) : Nat :=
  if isLeap (year + 1) then 366 else 365

theorem daysBefore_succ (year : Int) : daysBefore (year + 1) = daysBefore year + lengthOf year := by
  simp only [daysBefore, lengthOf, isLeap, Bool.and_eq_true, Bool.or_eq_true, beq_iff_eq,
    bne_iff_ne]
  split <;> omega

theorem daysBefore_lt {a b : Int} (h : a < b) : daysBefore (a + 1) ≤ daysBefore b := by
  simp only [daysBefore]
  omega

variable (era : Int) {century cycle year : Nat}

/-- The days before a year, by the eras, centuries and cycles of four years before it. -/
theorem daysBefore_parts (hc : century ≤ 3) (hq : cycle ≤ 24) (hy : year ≤ 3) :
    daysBefore (400 * era + 100 * century + 4 * cycle + year) =
      146097 * era + 36524 * century + 1461 * cycle + 365 * year := by
  simp only [daysBefore]
  omega

/-- The year behind the last of its cycle begins the next cycle, and so on. -/
theorem daysBefore_next (hc : century ≤ 3) (hq : cycle ≤ 24) (hy : year ≤ 3) :
    daysBefore (400 * era + 100 * century + 4 * cycle + year + 1) =
      if year < 3 then 146097 * era + 36524 * century + 1461 * cycle + 365 * (year + 1)
      else if cycle < 24 then 146097 * era + 36524 * century + 1461 * (cycle + 1)
      else if century < 3 then 146097 * era + 36524 * (century + 1)
      else 146097 * (era + 1) := by
  simp only [daysBefore]
  split
  · omega
  split
  · omega
  split <;> omega

/-- A day lies in the year that is found for it. -/
theorem yearOf_spec (days : Int) :
    daysBefore (yearOf days).1 + (yearOf days).2 = days ∧
      days < daysBefore ((yearOf days).1 + 1) := by
  simp only [yearOf]
  generalize hera : days / 146097 = era
  generalize hd : (days % 146097).toNat = d
  generalize hc : min (d / 36524) 3 = century
  generalize hq : (d - 36524 * century) / 1461 = cycle
  generalize hy : min ((d - 36524 * century - 1461 * cycle) / 365) 3 = year
  -- The days of an era but for the last are those of its centuries, and the last century has room
  -- for it; likewise the last year of a cycle.
  have hdays : days = 146097 * era + d := by omega
  have hlast : d < 146097 := by omega
  have hcycle : cycle ≤ 24 := by omega
  rw [daysBefore_parts era (by omega) hcycle (by omega),
    daysBefore_next era (by omega) hcycle (by omega)]
  refine ⟨by omega, ?_⟩
  split
  · omega
  split
  · omega
  split <;> omega

/-- It is the only one. -/
theorem yearOf_eq {year : Int} {d : Nat} (h : d < lengthOf year) :
    yearOf (daysBefore year + d) = (year, d) := by
  obtain ⟨hdays, hnext⟩ := yearOf_spec (daysBefore year + d)
  have hsucc := daysBefore_succ year
  have hyear : (yearOf (daysBefore year + d)).1 = year := by
    rcases lt_trichotomy (yearOf (daysBefore year + d)).1 year with hlt | heq | hgt
    · have := daysBefore_lt hlt
      omega
    · exact heq
    · have := daysBefore_lt hgt
      omega
  rw [hyear] at hdays
  refine Prod.ext hyear ?_
  show (yearOf (daysBefore year + d)).2 = d
  omega

/-! ### Months -/

/-- A month is found from every day in it. -/
theorem month_of_day {n d : Nat} (h : monthStart n ≤ d) (h' : d < monthStart (n + 1)) :
    (5 * d + 2) / 153 = n := by
  simp only [monthStart] at h h'
  omega

/-- The calendar year in which a date counts from March. -/
def marchYear (d : Date) : Int :=
  if d.month ≤ 2 then d.year - 1 else d.year

/-- The months that have passed since March. -/
def marchMonth (d : Date) : Nat :=
  (d.month + 9) % 12

/-- The days that have passed since the first of March. -/
def marchDay (d : Date) : Nat :=
  monthStart d.marchMonth + (d.day - 1)

theorem daysIn_le (year : Int) (month : Nat) : daysIn year month ≤ 31 := by
  rw [daysIn]
  split
  · split <;> omega
  · split <;> omega

variable {d : Date}

theorem isValid_iff : d.isValid = true ↔ (firstYear ≤ d.year ∧ d.year ≤ lastYear) ∧
    (1 ≤ d.month ∧ d.month ≤ 12) ∧ 1 ≤ d.day ∧ d.day ≤ daysIn d.year d.month := by
  simp only [isValid, Bool.and_eq_true, decide_eq_true_eq, and_assoc]

theorem lengthOf_bounds (year : Int) : 365 ≤ lengthOf year ∧ lengthOf year ≤ 366 := by
  rw [lengthOf]
  split <;> omega

/-- February comes last, from the day 337 on. -/
theorem daysIn_february (year : Int) : 337 + daysIn year 2 = lengthOf (year - 1) := by
  rw [lengthOf, Int.sub_add_cancel]
  simp only [daysIn, if_true]
  split <;> rfl

/-- A valid date lies in its month, and in its year. -/
theorem marchDay_lt (h : d.isValid = true) :
    d.marchDay < monthStart (d.marchMonth + 1) ∧ d.marchDay < lengthOf d.marchYear := by
  obtain ⟨-, ⟨hfirst, hlast⟩, hday, hdays⟩ := isValid_iff.1 h
  obtain ⟨year, month, day⟩ := d
  simp only [marchDay, marchMonth, marchYear] at *
  have hfebruary := daysIn_february year
  have hlength := lengthOf_bounds year
  have hbefore := lengthOf_bounds (year - 1)
  interval_cases month <;> simp [monthStart, daysIn] at * <;> omega

theorem month_of_marchMonth (h : d.isValid = true) :
    (if d.marchMonth < 10 then d.marchMonth + 3 else d.marchMonth - 9) = d.month := by
  obtain ⟨-, ⟨hfirst, hlast⟩, -, -⟩ := isValid_iff.1 h
  have hmarch : d.marchMonth = (d.month + 9) % 12 := rfl
  split <;> omega

theorem toDays_eq (h : 1 ≤ d.day) : d.toDays + origin = daysBefore d.marchYear + d.marchDay := by
  simp only [toDays, marchYear, marchDay, marchMonth]
  omega

/-- Every date comes back from its days. -/
theorem ofDays_toDays (h : d.isValid = true) : ofDays d.toDays = d := by
  obtain ⟨hmonth, hyear⟩ := marchDay_lt h
  obtain ⟨-, -, hday, -⟩ := isValid_iff.1 h
  have hfound : (5 * d.marchDay + 2) / 153 = d.marchMonth :=
    month_of_day (Nat.le_add_right _ _) hmonth
  have hback := month_of_marchMonth h
  simp only [ofDays, toDays_eq hday, yearOf_eq hyear, hfound, hback]
  obtain ⟨year, month, day⟩ := d
  simp only [marchYear, marchDay, Date.mk.injEq, true_and]
  refine ⟨?_, ?_⟩
  · split <;> omega
  · simp only at hday
    omega

theorem ofDays?_toDays (h : d.isValid = true) : ofDays? d.toDays = some d := by
  rw [ofDays?, ofDays_toDays h]
  exact if_pos (isValid_iff.1 h).1

end FluentSql.Date
