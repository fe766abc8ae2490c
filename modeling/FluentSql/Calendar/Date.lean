/-! Dates of the proleptic Gregorian calendar and their distance in days from the first of January
2000. Days are counted in years that begin in March, so that the leap day comes last: in 400 years
there are 146097 days, in 100 of them 36524 or one more, in 4 of them 1461 or one less. -/

namespace FluentSql

structure Date where
  year : Int
  month : Nat
  day : Nat
  deriving DecidableEq, Repr

namespace Date

def isLeap (year : Int) : Bool :=
  year % 4 == 0 && (year % 100 != 0 || year % 400 == 0)

def daysIn (year : Int) (month : Nat) : Nat :=
  if month = 2 then (if isLeap year then 29 else 28)
  else if month = 4 ∨ month = 6 ∨ month = 9 ∨ month = 11 then 30 else 31

/-- The years that dates may have. -/
def firstYear : Int := -262143

def lastYear : Int := 262142

/-- A day that the calendar has. -/
def isValid (d : Date) : Bool :=
  firstYear ≤ d.year && d.year ≤ lastYear && 1 ≤ d.month && d.month ≤ 12 &&
    1 ≤ d.day && d.day ≤ daysIn d.year d.month

/-- The date of a valid day. -/
def of? (year : Int) (month day : Nat) : Option Date :=
  let d : Date := ⟨year, month, day⟩
  if d.isValid then some d else none

/-- The days from the first of March of year 0 to the first of January 2000. -/
def origin : Int := 730425

/-- Days before a year that begins in March. -/
def daysBefore (year : Int) : Int :=
  365 * year + year / 4 - year / 100 + year / 400

/-- Days from the first of March to the first of a month, `n` months later. -/
def monthStart (n : Nat) : Nat :=
  (153 * n + 2) / 5

/-- The days since the first of January 2000. -/
def toDays (d : Date) : Int :=
  let year := if d.month ≤ 2 then d.year - 1 else d.year
  daysBefore year + monthStart ((d.month + 9) % 12) + (d.day - 1) - origin

/-- The year that begins in March and the day in it, of a day counted from the first of March of
year 0. -/
def yearOf (days : Int) : Int × Nat :=
  let era := days / 146097
  let d := (days % 146097).toNat
  let century := min (d / 36524) 3
  let d := d - 36524 * century
  let cycle := d / 1461
  let d := d - 1461 * cycle
  let year := min (d / 365) 3
  (400 * era + 100 * century + 4 * cycle + year, d - 365 * year)

/-- The date so many days after the first of January 2000. -/
def ofDays (days : Int) : Date :=
  let (year, d) := yearOf (days + origin)
  let n := (5 * d + 2) / 153
  let month := if n < 10 then n + 3 else n - 9
  ⟨if month ≤ 2 then year + 1 else year, month, d - monthStart n + 1⟩

/-- The same, for days of years that dates may have. -/
def ofDays? (days : Int) : Option Date :=
  let d := ofDays days
  if firstYear ≤ d.year ∧ d.year ≤ lastYear then some d else none

/-- A number with at least `width` digits. -/
def padded (width n : Nat) : List Char :=
  let ds := Nat.toDigits 10 n
  List.replicate (width - ds.length) '0' ++ ds

/-- Year, month and day between hyphens; a year outside 0 to 9999 has a sign. -/
def text (d : Date) : List Char :=
  let sign := if d.year < 0 then ['-'] else if 9999 < d.year then ['+'] else []
  sign ++ padded 4 d.year.natAbs ++ '-' :: padded 2 d.month ++ '-' :: padded 2 d.day

end Date

end FluentSql
