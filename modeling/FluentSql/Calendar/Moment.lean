import FluentSql.Calendar.Date

/-! Times of day and moments. A time of day may be a leap second, the sixtieth of its minute. A
moment is a date with a time of day, counted in microseconds from the beginning of 2000. -/

namespace FluentSql

structure Clock where
  hour : Nat
  minute : Nat
  second : Nat
  nanos : Nat
  deriving DecidableEq, Repr

namespace Clock

def midnight : Clock := ⟨0, 0, 0, 0⟩

/-- Nanoseconds of one second. -/
def secondNanos : Nat := 1000000000

/-- Nanoseconds of one day. -/
def dayNanos : Nat := 86400 * secondNanos

/-- Microseconds of one day. -/
def dayMicros : Nat := 86400 * 1000000

/-- The nanoseconds since midnight; a leap second has the number of the second after it. -/
def toNanos (c : Clock) : Nat :=
  ((60 * c.hour + c.minute) * 60 + c.second) * secondNanos + c.nanos

def ofMicros (n : Nat) : Clock :=
  let s := n / 1000000
  ⟨s / 3600, s / 60 % 60, s % 60, n % 1000000 * 1000⟩

/-- The fraction of a second, of three, six or nine digits, or nothing if it is zero. -/
def fraction (nanos : Nat) : List Char :=
  if nanos = 0 then []
  else if nanos % 1000000 = 0 then '.' :: Date.padded 3 (nanos / 1000000)
  else if nanos % 1000 = 0 then '.' :: Date.padded 6 (nanos / 1000)
  else '.' :: Date.padded 9 nanos

def text (c : Clock) : List Char :=
  Date.padded 2 c.hour ++ ':' :: Date.padded 2 c.minute ++ ':' :: Date.padded 2 c.second ++
    fraction c.nanos

end Clock

structure Moment where
  date : Date
  clock : Clock
  deriving DecidableEq, Repr

namespace Moment

/-- Microseconds since the beginning of 2000, a fraction of one cut off toward zero. -/
def toMicros (m : Moment) : Int :=
  (m.date.toDays * Clock.dayNanos + m.clock.toNanos).tdiv 1000

/-- The moment so many microseconds after the beginning of 2000. -/
def ofMicros? (n : Int) : Option Moment := do
  let date ← Date.ofDays? (n / Clock.dayMicros)
  return ⟨date, .ofMicros (n % Clock.dayMicros).toNat⟩

/-- Date and time with a blank between them. -/
def text (m : Moment) : List Char :=
  m.date.text ++ ' ' :: m.clock.text

/-- Date and time with a `T` between them and the offset of universal time behind them. -/
def universalText (m : Moment) : List Char :=
  m.date.text ++ 'T' :: m.clock.text ++ ['+', '0', '0', ':', '0', '0']

end Moment

end FluentSql
