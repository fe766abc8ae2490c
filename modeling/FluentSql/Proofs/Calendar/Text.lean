import FluentSql.Calendar.Reader
import FluentSql.Proofs.Calendar.Days
import FluentSql.Proofs.Number.Numeral
import Mathlib.Data.List.TakeWhile

/-! Dates, times of day and moments read back from their text. The fields of a text have fixed
widths: a field of as many digits as its reader takes at most is read as its number, whatever stands
behind it. So every date of four-digit years, every time of day and every moment is what its text is
read as, and the text of a moment in universal time is read as the microseconds of the moment. -/

namespace FluentSql

/-! ### Fields -/

theorem natOfDigits_zeros (k : Nat) (ds : List Char) :
    natOfDigits 0 (List.replicate k '0' ++ ds) = natOfDigits 0 ds := by
  induction k with
  | zero => rfl
  | succ k ih => rwa [List.replicate_succ, List.cons_append]

namespace Date

theorem natOfDigits_padded (width n : Nat) : natOfDigits 0 (padded width n) = n := by
  rw [padded, natOfDigits_zeros, natOfDigits_toDigits]

theorem length_padded {width n : Nat} (hw : 0 < width) (h : n < 10 ^ width) :
    (padded width n).length = width := by
  have hlen : (Nat.toDigits 10 n).length ≤ width := (Nat.length_toDigits_le_iff (by decide) hw).2 h
  rw [padded, List.length_append, List.length_replicate]
  omega

theorem isDigit_of_mem_padded {width n : Nat} {c : Char} (h : c ∈ padded width n) :
    isDigit c = true := by
  rw [padded, List.mem_append] at h
  rcases h with h | h
  · rw [List.eq_of_mem_replicate h]
    rfl
  · exact isDigit_of_mem_toDigits h

end Date

namespace Calendar

open Text Date

/-- What follows goes on with neither a digit nor a point. -/
def Ends (s : List Char) : Prop :=
  ∀ c ∈ s.head?, isDigit c = false ∧ c ≠ '.'

theorem ends_nil : Ends [] := by
  rintro c ⟨⟩

theorem isBlank_of_isDigit {c : Char} (h : isDigit c = true) : isBlank c = false := by
  have hlow : '0'.val.toNat = 48 := by decide
  have hhigh : '9'.val.toNat = 57 := by decide
  simp only [isDigit, Bool.and_eq_true, decide_eq_true_eq, Char.le_def, UInt32.le_iff_toNat_le,
    hlow, hhigh] at h
  have hn : c.toNat = c.val.toNat := rfl
  simp only [isBlank, Bool.or_eq_false_iff, Bool.and_eq_false_iff, decide_eq_false_iff_not,
    beq_eq_false_iff_ne]
  omega

variable {width n : Nat}

/-- A field begins with a digit. -/
theorem padded_eq_cons (width n : Nat) :
    ∃ c cs, padded width n = c :: cs ∧ isDigit c = true := by
  have hpos : 0 < (Nat.toDigits 10 n).length := Nat.length_toDigits_pos
  cases h : padded width n with
  | nil =>
    have hlen := congrArg List.length h
    rw [padded, List.length_append, List.length_nil] at hlen
    omega
  | cons c cs => exact ⟨c, cs, rfl, isDigit_of_mem_padded (h ▸ List.mem_cons_self)⟩

theorem trimStart_padded (width n : Nat) (rest : List Char) :
    trimStart (padded width n ++ rest) = padded width n ++ rest := by
  obtain ⟨c, cs, h, hc⟩ := padded_eq_cons width n
  rw [h, List.cons_append, trimStart, List.dropWhile_cons_of_neg]
  rw [isBlank_of_isDigit hc]
  exact Bool.false_ne_true

/-- A field is read by a reader of its width. -/
theorem digits?_padded {low : Nat} (hw : 0 < width) (hlow : low ≤ width) (h : n < 10 ^ width)
    (rest : List Char) : digits? low width (padded width n ++ rest) = some (n, rest) := by
  have hlen := length_padded hw h
  have htake : (padded width n ++ rest).take width = padded width n := List.take_left' hlen
  have hall : (padded width n).takeWhile isDigit = padded width n :=
    List.takeWhile_eq_self_iff.2 fun _ => isDigit_of_mem_padded
  have hge : ¬ (padded width n).length < low := by omega
  simp only [digits?, htake, hall, if_neg hge, natOfDigits_padded, List.drop_left]

theorem number?_padded (hw : 0 < width) (h : n < 10 ^ width) (rest : List Char) :
    number? width (padded width n ++ rest) = some (n, rest) := by
  rw [number?, trimStart_padded]
  exact digits?_padded hw hw h rest

theorem year?_padded (h : n < 10000) (rest : List Char) :
    year? (padded 4 n ++ rest) = some ((n : Int), rest) := by
  have hdigits : digits? 1 4 (padded 4 n ++ rest) = some (n, rest) :=
    digits?_padded (by decide) (by decide) h rest
  obtain ⟨c, cs, hp, hc⟩ := padded_eq_cons 4 n
  rw [year?, trimStart_padded]
  rw [hp, List.cons_append] at hdigits ⊢
  split
  next heq =>
    cases heq
    cases hc
  next heq =>
    cases heq
    cases hc
  next => rw [hdigits]; rfl

/-- A separator is found, white space before it allowed or not, unless it is white space itself. -/
theorem mark?_self (loose : Bool) {c : Char} (hc : isBlank c = false) (rest : List Char) :
    mark? loose c (c :: rest) = some rest := by
  have htrim : trimStart (c :: rest) = c :: rest := by
    rw [trimStart, List.dropWhile_cons_of_neg]
    rw [hc]
    exact Bool.false_ne_true
  have hs : (if loose then trimStart (c :: rest) else c :: rest) = c :: rest := by
    rw [htrim, ite_self]
  simp only [mark?, hs, if_true]

/-! ### Fractions -/

theorem fraction?_padded (hw : 0 < width) (hw' : width ≤ 9) (h : n < 10 ^ width)
    {rest : List Char} (hrest : Ends rest) :
    fraction? ('.' :: padded width n ++ rest) = some (n * 10 ^ (9 - width), rest) := by
  have hlen := length_padded hw h
  have hall : (padded width n ++ rest).takeWhile isDigit = padded width n := by
    rw [List.takeWhile_append_of_pos fun _ => isDigit_of_mem_padded]
    cases rest with
    | nil => exact List.append_nil _
    | cons c cs =>
      rw [List.takeWhile_cons, (hrest c rfl).1]
      exact List.append_nil _
  have hempty : (padded width n).isEmpty = false := by
    obtain ⟨c, cs, hp, -⟩ := padded_eq_cons width n
    rw [hp]
    rfl
  have htake : (padded width n).take 9 = padded width n := List.take_of_length_le (by omega)
  have hdrop : (padded width n ++ rest).drop width = rest := List.drop_left' hlen
  simp only [fraction?, List.cons_append, hall, hempty, Bool.false_eq_true, if_false, htake,
    natOfDigits_padded, hlen, hdrop]
  rfl

theorem fraction?_of_ends {rest : List Char} (hrest : Ends rest) :
    fraction? rest = some (0, rest) := by
  cases rest with
  | nil => rfl
  | cons c cs =>
    rw [fraction?]
    rintro ds ⟨⟩
    exact (hrest _ rfl).2 rfl

/-- A fraction of nanoseconds is read back, whichever width it is written in. -/
theorem fraction?_fraction {nanos : Nat} (h : nanos < Clock.secondNanos) {rest : List Char}
    (hrest : Ends rest) : fraction? (Clock.fraction nanos ++ rest) = some (nanos, rest) := by
  have hbound : nanos < 1000000000 := h
  rw [Clock.fraction]
  split
  next hzero => rw [List.nil_append, fraction?_of_ends hrest, hzero]
  next =>
    split
    next hmillis =>
      rw [fraction?_padded (by decide) (by decide) (by omega) hrest]
      exact congrArg (fun n => some (n, rest)) (by omega)
    next =>
      split
      next hmicros =>
        rw [fraction?_padded (by decide) (by decide) (by omega) hrest]
        exact congrArg (fun n => some (n, rest)) (by omega)
      next =>
        rw [fraction?_padded (by decide) (by decide) (by omega) hrest]
        exact congrArg (fun n => some (n, rest)) (by omega)

end Calendar

/-! ### Times of day -/

/-- A time of day in its ranges. -/
structure Clock.Valid (c : Clock) : Prop where
  hour : c.hour ≤ 23
  minute : c.minute ≤ 59
  second : c.second ≤ 60
  nanos : c.nanos < Clock.secondNanos

namespace Calendar

open Text Date

variable {c : Clock} {rest : List Char}

theorem clockOf?_of_valid (h : c.Valid) : clockOf? c.hour c.minute c.second c.nanos = some c :=
  if_pos ⟨h.hour, h.minute, h.second⟩

theorem isBlank_colon : isBlank ':' = false := by decide

theorem hourMinute?_padded (h : c.Valid) (loose : Bool) (rest : List Char) :
    hourMinute? loose (padded 2 c.hour ++ (':' :: padded 2 c.minute ++ rest)) =
      some ((c.hour, c.minute), rest) := by
  have hhour := h.hour
  have hminute := h.minute
  rw [hourMinute?, number?_padded (by decide) (by omega)]
  simp only [Option.bind_eq_bind, Option.bind_some, List.cons_append,
    mark?_self loose isBlank_colon]
  rw [number?_padded (by decide) (by omega)]
  rfl

/-- White space before the hour is passed over. -/
theorem hourMinute?_blank (loose : Bool) (s : List Char) :
    hourMinute? loose (' ' :: s) = hourMinute? loose s := rfl

theorem secondNanos?_padded (h : c.Valid) (loose : Bool) (hrest : Ends rest) :
    secondNanos? loose (':' :: padded 2 c.second ++ (Clock.fraction c.nanos ++ rest)) =
      some ((c.second, c.nanos), rest) := by
  have hsecond := h.second
  rw [secondNanos?, List.cons_append, mark?_self loose isBlank_colon]
  simp only [Option.bind_eq_bind, Option.bind_some]
  rw [number?_padded (by decide) (by omega)]
  simp only [Option.bind_some, fraction?_fraction h.nanos hrest]
  rfl

theorem clock?_text (h : c.Valid) (loose : Bool) (hrest : Ends rest) :
    clock? loose (c.text ++ rest) = some (c, rest) := by
  simp only [clock?, Clock.text, List.append_assoc, hourMinute?_padded h, Option.bind_eq_bind,
    Option.bind_some, secondNanos?_padded h loose hrest, clockOf?_of_valid h]
  rfl

end Calendar

open Calendar in
/-- A time of day is read back from its text. -/
theorem Clock.read?_text {c : Clock} (h : c.Valid) : Clock.read? c.text = some c := by
  have hminute :=
    hourMinute?_padded h true (':' :: Date.padded 2 c.second ++ (fraction c.nanos ++ []))
  have hsecond := secondNanos?_padded h true ends_nil
  have htext : c.text = Date.padded 2 c.hour ++ (':' :: Date.padded 2 c.minute ++
      (':' :: Date.padded 2 c.second ++ (fraction c.nanos ++ []))) := by
    simp only [text, List.append_assoc, List.append_nil]
  rw [htext, Clock.read?, hminute]
  simp only [Option.bind_eq_bind, Option.bind_some, hsecond]
  exact clockOf?_of_valid h

/-! ### Dates -/

/-- A date of the calendar whose year has at most four digits. -/
structure Date.Common (d : Date) : Prop where
  valid : d.isValid = true
  year_nonneg : 0 ≤ d.year
  year_le : d.year ≤ 9999

theorem Date.Common.fields {d : Date} (h : d.Common) :
    d.year.natAbs < 10000 ∧ d.month < 100 ∧ d.day < 100 := by
  obtain ⟨-, ⟨-, hmonth⟩, -, hday⟩ := isValid_iff.1 h.valid
  have hyear := h.year_nonneg
  have hyear' := h.year_le
  have hdays := daysIn_le d.year d.month
  omega

theorem Date.Common.text {d : Date} (h : d.Common) :
    d.text = padded 4 d.year.natAbs ++ ('-' :: padded 2 d.month ++ '-' :: padded 2 d.day) := by
  have hneg : ¬ d.year < 0 := Int.not_lt.2 h.year_nonneg
  have hbig : ¬ 9999 < d.year := Int.not_lt.2 h.year_le
  simp only [Date.text, if_neg hneg, if_neg hbig, List.nil_append, List.append_assoc]

theorem Date.Common.natAbs_year {d : Date} (h : d.Common) : (d.year.natAbs : Int) = d.year :=
  Int.natAbs_of_nonneg h.year_nonneg

theorem Date.of?_of_valid {d : Date} (h : d.isValid = true) :
    Date.of? d.year d.month d.day = some d :=
  if_pos h

theorem Calendar.isBlank_hyphen : Text.isBlank '-' = false := by decide

open Calendar in
theorem Calendar.date?_text {d : Date} (h : d.Common) (loose : Bool) (rest : List Char) :
    date? loose (d.text ++ rest) = some (d, rest) := by
  obtain ⟨hyear, hmonth, hday⟩ := h.fields
  rw [h.text, List.append_assoc, date?, year?_padded hyear]
  simp only [Option.bind_eq_bind, Option.bind_some, List.cons_append, List.append_assoc,
    mark?_self loose isBlank_hyphen]
  rw [number?_padded (by decide) hmonth]
  simp only [Option.bind_some, mark?_self loose isBlank_hyphen]
  rw [number?_padded (by decide) hday]
  simp only [Option.bind_some, h.natAbs_year, Date.of?_of_valid h.valid]
  rfl

/-- A date is read back from its text. -/
theorem Date.read?_text {d : Date} (h : d.Common) : Date.read? d.text = some d := by
  have hd := Calendar.date?_text h true []
  rw [List.append_nil] at hd
  rw [Date.read?, hd]
  rfl

/-! ### Moments -/

namespace Moment

open Calendar Date

variable {m : Moment}

/-- A blank is no `T`, and no digit is one either. -/
theorem mark?_blank (c : Clock) : mark? true 'T' (' ' :: c.text) = none := by
  obtain ⟨d, ds, hp, hd⟩ := padded_eq_cons 2 c.hour
  have htrim : Text.trimStart (' ' :: c.text) = c.text := by
    have hskip : Text.trimStart (' ' :: c.text) = Text.trimStart c.text := rfl
    rw [hskip, Clock.text, List.append_assoc, List.append_assoc, trimStart_padded]
  have hne : d ≠ 'T' := by
    rintro rfl
    cases hd
  have hcons : ∃ es, c.text = d :: es := by
    rw [Clock.text, hp]
    exact ⟨_, rfl⟩
  obtain ⟨es, hes⟩ := hcons
  rw [mark?, if_pos rfl, htrim, hes]
  exact if_neg hne

/-- A moment is read back from its text: what does not read with a `T` reads with a blank. -/
theorem read?_text (hd : m.date.Common) (hc : m.clock.Valid) : Moment.read? m.text = some m := by
  have hjoined : readJoined? m.text = none := by
    rw [readJoined?, text, date?_text hd]
    simp only [Option.bind_eq_bind, Option.bind_some, mark?_blank, Option.bind_none]
  have hclock : clock? false (' ' :: m.clock.text) = some (m.clock, []) := by
    have h := clock?_text hc false ends_nil
    rw [List.append_nil] at h
    simpa only [clock?, hourMinute?_blank] using h
  have hspaced : readSpaced? m.text = some m := by
    rw [readSpaced?, text, date?_text hd]
    simp only [Option.bind_eq_bind, Option.bind_some, hclock]
    rfl
  rw [read?, hjoined, hspaced]
  rfl

/-- The offset of universal time. -/
theorem offset?_zero : offset? ['+', '0', '0', ':', '0', '0'] = some (0, []) := by decide

variable {s s₁ s₂ s₃ s₄ s₅ s₆ s₇ : List Char} {year month day hour minute second nanos : Nat}
  {offset : Int} {date : Date} {clock : Clock}

/-- The reader of moments with a time zone, field by field. -/
theorem readZoned?_of_fields (hyear : digits? 4 4 s = some (year, '-' :: s₁))
    (hmonth : digits? 2 2 s₁ = some (month, '-' :: s₂))
    (hday : digits? 2 2 s₂ = some (day, 'T' :: s₃))
    (hhour : digits? 2 2 s₃ = some (hour, ':' :: s₄))
    (hminute : digits? 2 2 s₄ = some (minute, ':' :: s₅))
    (hsecond : digits? 2 2 s₅ = some (second, s₆)) (hnanos : fraction? s₆ = some (nanos, s₇))
    (hoffset : offset? s₇ = some (offset, [])) (hdate : Date.of? year month day = some date)
    (hclock : clockOf? hour minute second nanos = some clock) :
    readZoned? s = some ((date.toDays * Clock.dayNanos + clock.toNanos -
      offset * (60 * Clock.secondNanos : Int)).tdiv 1000) := by
  have hhyphen (r : List Char) : mark? false '-' ('-' :: r) = some r :=
    mark?_self false isBlank_hyphen r
  have hcolon (r : List Char) : mark? false ':' (':' :: r) = some r :=
    mark?_self false isBlank_colon r
  have hT : (mark? false 'T' ('T' :: s₃) <|> mark? false 't' ('T' :: s₃) <|>
      mark? false ' ' ('T' :: s₃)) = some s₃ := by
    rw [mark?_self false (by decide)]
    rfl
  -- One reader after the other: simplifying the whole would go through all later ones each time.
  refine Option.bind_eq_some_iff.2 ⟨_, hyear, ?_⟩
  refine Option.bind_eq_some_iff.2 ⟨_, hhyphen _, Option.bind_eq_some_iff.2 ⟨_, hmonth, ?_⟩⟩
  refine Option.bind_eq_some_iff.2 ⟨_, hhyphen _, Option.bind_eq_some_iff.2 ⟨_, hday, ?_⟩⟩
  refine Option.bind_eq_some_iff.2 ⟨_, hT, Option.bind_eq_some_iff.2 ⟨_, hhour, ?_⟩⟩
  refine Option.bind_eq_some_iff.2 ⟨_, hcolon _, Option.bind_eq_some_iff.2 ⟨_, hminute, ?_⟩⟩
  refine Option.bind_eq_some_iff.2 ⟨_, hcolon _, Option.bind_eq_some_iff.2 ⟨_, hsecond, ?_⟩⟩
  refine Option.bind_eq_some_iff.2 ⟨_, hnanos, Option.bind_eq_some_iff.2 ⟨_, hoffset, ?_⟩⟩
  exact Option.bind_eq_some_iff.2 ⟨_, hdate, Option.bind_eq_some_iff.2 ⟨_, hclock, rfl⟩⟩

/-- The text of a moment in universal time is read as its microseconds. -/
theorem readZoned?_universalText (hd : m.date.Common) (hc : m.clock.Valid) :
    readZoned? m.universalText = some m.toMicros := by
  obtain ⟨hyear, hmonth, hday⟩ := hd.fields
  have hhour := hc.hour
  have hminute := hc.minute
  have hsecond := hc.second
  have hends : Ends ['+', '0', '0', ':', '0', '0'] := by
    rintro c ⟨⟩
    decide
  have hdate : Date.of? m.date.year.natAbs m.date.month m.date.day = some m.date := by
    rw [hd.natAbs_year]
    exact of?_of_valid hd.valid
  have field {width n : Nat} (hw : 0 < width) (h : n < 10 ^ width) (rest : List Char) :
      digits? width width (padded width n ++ rest) = some (n, rest) :=
    digits?_padded hw (Nat.le_refl width) h rest
  have htext : m.universalText = padded 4 m.date.year.natAbs ++ ('-' :: (padded 2 m.date.month ++
      ('-' :: (padded 2 m.date.day ++ ('T' :: (padded 2 m.clock.hour ++ (':' ::
        (padded 2 m.clock.minute ++ (':' :: (padded 2 m.clock.second ++
          (Clock.fraction m.clock.nanos ++ ['+', '0', '0', ':', '0', '0']))))))))))) := by
    rw [universalText, hd.text, Clock.text]
    simp only [List.append_assoc, List.cons_append]
  rw [htext, readZoned?_of_fields (field (by decide) hyear _) (field (by decide) hmonth _)
    (field (by decide) hday _) (field (by decide) (by omega) _) (field (by decide) (by omega) _)
    (field (by decide) (by omega) _) (fraction?_fraction hc.nanos hends) offset?_zero hdate
    (clockOf?_of_valid hc), toMicros, Int.zero_mul, Int.sub_zero]

end Moment

end FluentSql
