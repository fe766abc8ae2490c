import FluentSql.Calendar.Moment
import FluentSql.Number.Integer

/-! Reading dates, times of day and moments. Each reader takes what it knows off the front of a text
and gives back the rest. White space may stand before every number; whether it may also stand
before a separator is up to the format. -/

namespace FluentSql.Calendar

open Text

/-- A row of at least `low` digits, `high` of them at most. -/
def digits? (low high : Nat) (s : List Char) : Option (Nat × List Char) :=
  let ds := (s.take high).takeWhile isDigit
  if ds.length < low then none else some (natOfDigits 0 ds, s.drop ds.length)

/-- A number of up to `width` digits, white space before it. -/
def number? (width : Nat) (s : List Char) : Option (Nat × List Char) :=
  digits? 1 width (trimStart s)

/-- A year: four digits at most, or a sign and any number of digits. -/
def year? (s : List Char) : Option (Int × List Char) :=
  match trimStart s with
  | '-' :: cs => (fun (n, r) => (-(n : Int), r)) <$> digits? 1 cs.length cs
  | '+' :: cs => (fun (n, r) => ((n : Int), r)) <$> digits? 1 cs.length cs
  | cs => (fun (n, r) => ((n : Int), r)) <$> digits? 1 4 cs

/-- One character, white space before it where `loose` allows. -/
def mark? (loose : Bool) (c : Char) (s : List Char) : Option (List Char) :=
  match (if loose then trimStart s else s) with
  | d :: r => if d = c then some r else none
  | [] => none

/-- A fraction of a second, if the text begins with a point: nine digits count, the others are
dropped. -/
def fraction? (s : List Char) : Option (Nat × List Char) :=
  match s with
  | '.' :: cs =>
    let ds := cs.takeWhile isDigit
    if ds.isEmpty then none
    else
      let kept := ds.take 9
      some (natOfDigits 0 kept * Nat.pow 10 (9 - kept.length), cs.drop ds.length)
  | _ => some (0, s)

def date? (loose : Bool) (s : List Char) : Option (Date × List Char) := do
  let (year, s) ← year? s
  let (month, s) ← number? 2 (← mark? loose '-' s)
  let (day, s) ← number? 2 (← mark? loose '-' s)
  let date ← Date.of? year month day
  return (date, s)

/-- A time of day in its ranges; a second may be a leap second. -/
def clockOf? (hour minute second nanos : Nat) : Option Clock :=
  if hour ≤ 23 ∧ minute ≤ 59 ∧ second ≤ 60 then some ⟨hour, minute, second, nanos⟩ else none

/-- Hour and minute. -/
def hourMinute? (loose : Bool) (s : List Char) : Option ((Nat × Nat) × List Char) := do
  let (hour, s) ← number? 2 s
  let (minute, s) ← number? 2 (← mark? loose ':' s)
  return ((hour, minute), s)

/-- Second and nanoseconds. -/
def secondNanos? (loose : Bool) (s : List Char) : Option ((Nat × Nat) × List Char) := do
  let (second, s) ← number? 2 (← mark? loose ':' s)
  let (nanos, s) ← fraction? s
  return ((second, nanos), s)

def clock? (loose : Bool) (s : List Char) : Option (Clock × List Char) := do
  let ((hour, minute), s) ← hourMinute? loose s
  let ((second, nanos), s) ← secondNanos? loose s
  let clock ← clockOf? hour minute second nanos
  return (clock, s)

/-- The value of a reader that leaves nothing but white space. -/
def whole? {α : Type} (r : Option (α × List Char)) : Option α := do
  let (a, rest) ← r
  if (trimStart rest).isEmpty then some a else none

end Calendar

/-- Reads `year-month-day`. -/
def Date.read? (s : List Char) : Option Date :=
  Calendar.whole? (Calendar.date? true s)

/-- Reads `hour:minute` or `hour:minute:second`, with a fraction. -/
def Clock.read? (s : List Char) : Option Clock := do
  let ((hour, minute), rest) ← Calendar.hourMinute? true s
  match Calendar.secondNanos? true rest with
  | some ((second, nanos), rest) =>
    if (Text.trimStart rest).isEmpty then Calendar.clockOf? hour minute second nanos else none
  | none => if (Text.trimStart rest).isEmpty then Calendar.clockOf? hour minute 0 0 else none

namespace Moment

open Calendar

/-- Reads `dateTtime`, with white space before every part and at the end. -/
def readJoined? (s : List Char) : Option Moment := do
  let (date, s) ← date? true s
  let (clock, s) ← clock? true (← mark? true 'T' s)
  if (Text.trimStart s).isEmpty then some ⟨date, clock⟩ else none

/-- Reads a date and a time with nothing but white space between them, and nothing behind. -/
def readSpaced? (s : List Char) : Option Moment := do
  let (date, s) ← date? false s
  let (clock, s) ← clock? false s
  if s.isEmpty then some ⟨date, clock⟩ else none

def read? (s : List Char) : Option Moment :=
  readJoined? s <|> readSpaced? s

/-- The offset of a time zone from universal time, in minutes. -/
def offset? : List Char → Option (Int × List Char)
  | 'Z' :: s => some (0, s)
  | 'z' :: s => some (0, s)
  | sign :: s => do
    let negative ← if sign = '+' then some false
      else if sign = '-' ∨ sign = '\u2212' then some true else none
    let (hours, s) ← digits? 2 2 s
    let (minutes, s) ← digits? 2 2 (← mark? false ':' s)
    if hours ≤ 23 ∧ minutes ≤ 59 then
      let n : Int := 60 * hours + minutes
      some (if negative then -n else n, s)
    else none
  | [] => none

/-- Reads a moment with its time zone, every field at its full width, as microseconds of universal
time since the beginning of 2000. -/
def readZoned? (s : List Char) : Option Int := do
  let (year, s) ← digits? 4 4 s
  let (month, s) ← digits? 2 2 (← mark? false '-' s)
  let (day, s) ← digits? 2 2 (← mark? false '-' s)
  let s ← mark? false 'T' s <|> mark? false 't' s <|> mark? false ' ' s
  let (hour, s) ← digits? 2 2 s
  let (minute, s) ← digits? 2 2 (← mark? false ':' s)
  let (second, s) ← digits? 2 2 (← mark? false ':' s)
  let (nanos, s) ← fraction? s
  let (offset, s) ← offset? s
  if !s.isEmpty then none
  let date ← Date.of? year month day
  let clock ← clockOf? hour minute second nanos
  let minute : Int := 60 * Clock.secondNanos
  return (date.toDays * Clock.dayNanos + clock.toNanos - offset * minute).tdiv 1000

end Moment

end FluentSql
