import FluentSql.Proofs.Calendar.Instants
import FluentSql.Proofs.Postgres.Canonical

/-! What becomes of a cell that is read and bound again. At the types that hold values exactly and
at those of the calendar, a cell that holds a value is read as the one value that goes with it, and
this value, bound to a parameter of the cell's type, is the cell, octet for octet,
`encode_decodeColumn`. Days and microseconds become text on the way and are read from it as they
were, whatever fraction of a second there is. -/

namespace FluentSql

/-- The text of an identifier is read back. -/
theorem Uuid.read?_text {bs : List UInt8} (h : bs.length = 16) : read? (text bs) = some bs := by
  have hdecode := Text.Hex.decode?_encode bs
  have hlen : (Text.Hex.encode bs).length = 32 := by
    rw [Text.Hex.length_encode]
    omega
  rw [text, read?_of_spells (.hyphenated (digits_of_decode? hlen hdecode)), hdecode]

namespace Postgres

/-- The octets of a whole number of a type. -/
def DataType.width : DataType → Nat
  | .int2 => 2
  | .int8 => 8
  | _ => 4

/-- The cell of a value in the binary form of a type, and the value that it is read as: dates count
days from the beginning of 2000, times and moments microseconds. -/
inductive Cell : DataType → List UInt8 → Value → Prop where
  | bool (b : Bool) : Cell .bool [if b then 1 else 0] (.bool b)
  | int {t : DataType} {low high : Int} (n : Int) : t.range? = some (low, high) → low ≤ n →
      n ≤ high → Cell t (Octets.bigInt t.width n) (.int (.ofInt n))
  | text {t : DataType} (s : String) : t.isText = true → Cell t (Text.Utf8.encode s) (.text s)
  | bytes (bs : List UInt8) : Cell .bytea bs (.bytes bs)
  | uuid (bs : List UInt8) : bs.length = 16 → Cell .uuid bs (ofChars (Uuid.text bs))
  | date (d : Date) : d.Common → Cell .date (Octets.bigInt 4 d.toDays) (ofChars d.text)
  | time (n : Nat) : n < Clock.dayMicros →
      Cell .time (Octets.bigInt 8 n) (ofChars (Clock.ofMicros n).text)
  | timestamp (d : Date) (n : Nat) : d.Common → n < Clock.dayMicros →
      Cell .timestamp (Octets.bigInt 8 (d.toDays * Clock.dayMicros + n))
        (ofChars (Moment.mk d (.ofMicros n)).text)
  | timestamptz (d : Date) (n : Nat) : d.Common → n < Clock.dayMicros →
      Cell .timestamptz (Octets.bigInt 8 (d.toDays * Clock.dayMicros + n))
        (ofChars (Moment.mk d (.ofMicros n)).universalText)

/-! ### Whole numbers -/

section Integers

variable {t : DataType} {low high n : Int}

/-- No type has whole numbers beyond 64 bits. -/
theorem range_bounds (ht : t.range? = some (low, high)) :
    -0x8000000000000000 ≤ low ∧ high < 0x8000000000000000 := by
  cases t with
  | int2 | int4 | int8 | oid =>
    cases ht
    decide
  | _ => cases ht

theorem known_of_range (ht : t.range? = some (low, high)) : DataType.known.contains t = true := by
  cases t with
  | int2 | int4 | int8 | oid => rfl
  | _ => cases ht

theorem bindInt_range (ht : t.range? = some (low, high)) (hl : low ≤ n) (hh : n ≤ high) :
    bindInt (.ofInt n) t = .ok (Octets.bigInt t.width n) := by
  obtain ⟨hlow, hhigh⟩ := range_bounds ht
  have hn : (Int64.ofInt n).toInt = n := Int64.toInt_ofInt_of_le (by omega) (by omega)
  cases t with
  | int2 | int4 | oid =>
    cases ht
    refine encodeInt_eq_ok_iff.2 ⟨?_, ?_⟩
    · rw [hn]
      exact ⟨hl, hh⟩
    · rw [hn]
      rfl
  | int8 =>
    cases ht
    rw [bindInt, hn]
    rfl
  | _ => cases ht

/-- Octets of the width of a type are a number in its range. -/
theorem exists_bigInt (ht : t.range? = some (low, high)) {bs : List UInt8}
    (h : bs.length = t.width) :
    ∃ n, (low ≤ n ∧ n ≤ high) ∧ bs = Octets.bigInt t.width n := by
  have hspan2 : (Octets.span 2 : Int) = 0x10000 := by decide
  have hspan4 : (Octets.span 4 : Int) = 0x100000000 := by decide
  have hspan8 : (Octets.span 8 : Int) = 0x10000000000000000 := by decide
  have hbounds := Octets.intOfBig_bounds bs
  have hback := Octets.bigInt_intOfBig bs
  rw [h] at hbounds hback
  cases t with
  | int2 | int4 | int8 =>
    cases ht
    simp only [DataType.width] at hbounds
    exact ⟨Octets.intOfBig bs, by omega, hback.symm⟩
  | oid =>
    cases ht
    have hlt : Octets.ofBig bs < Octets.span 4 := by
      have hbig := Octets.ofBig_lt bs
      rwa [h] at hbig
    have hbig : Octets.big 4 (Octets.ofBig bs) = bs := by
      have hbig := Octets.big_ofBig bs
      rwa [h] at hbig
    refine ⟨Octets.ofBig bs, by omega, ?_⟩
    have hwidth : DataType.oid.width = 4 := rfl
    rw [hwidth, Octets.bigInt, Octets.unsigned_of_lt hlt, hbig]
  | _ => cases ht

end Integers

/-! ### Days and microseconds -/

section Calendar

variable {d : Date} {n : Nat}

theorem int?_date (hd : d.Common) : int? 4 (Octets.bigInt 4 d.toDays) = some d.toDays := by
  obtain ⟨hlow, hhigh⟩ := hd.toDays_bounds
  have hspan : (Octets.span 4 : Int) = 0x100000000 := by decide
  exact int?_bigInt (by omega) (by omega)

theorem int?_micros (hd : d.Common) (h : n < Clock.dayMicros) :
    int? 8 (Octets.bigInt 8 (d.toDays * Clock.dayMicros + n)) =
      some (d.toDays * Clock.dayMicros + n) := by
  obtain ⟨hlow, hhigh⟩ := Moment.micros_bounds hd h
  have hspan : (Octets.span 8 : Int) = 0x10000000000000000 := by decide
  exact int?_bigInt (by omega) (by omega)

theorem int?_time (h : n < Clock.dayMicros) : int? 8 (Octets.bigInt 8 n) = some (n : Int) := by
  have hn : n < 86400000000 := h
  have hspan : (Octets.span 8 : Int) = 0x10000000000000000 := by decide
  exact int?_bigInt (by omega) (by omega)

theorem bindText_date (hd : d.Common) :
    bindText (String.ofList d.text) .date = .ok (Octets.bigInt 4 d.toDays) := by
  rw [bindText, String.toList_ofList, Date.read?_text hd, bindRead]

theorem bindText_time (h : n < Clock.dayMicros) :
    bindText (String.ofList (Clock.ofMicros n).text) .time = .ok (Octets.bigInt 8 n) := by
  have hmicros : (Clock.ofMicros n).toNanos / 1000 = n := by
    rw [Clock.toNanos_ofMicros]
    omega
  have hunsigned : Octets.unsigned 8 n = n := Octets.unsigned_of_lt (Nat.lt_trans h (by decide))
  rw [bindText, String.toList_ofList, Clock.read?_text (Clock.ofMicros_valid h), bindRead, hmicros,
    Octets.bigInt, hunsigned]

theorem bindText_timestamp (hd : d.Common) (h : n < Clock.dayMicros) :
    bindText (String.ofList (Moment.mk d (.ofMicros n)).text) .timestamp =
      .ok (Octets.bigInt 8 (d.toDays * Clock.dayMicros + n)) := by
  have hread := Moment.read?_text (m := ⟨d, .ofMicros n⟩) hd (Clock.ofMicros_valid h)
  rw [bindText, String.toList_ofList, hread, bindRead, Moment.toMicros_ofMicros]

theorem bindText_timestamptz (hd : d.Common) (h : n < Clock.dayMicros) :
    bindText (String.ofList (Moment.mk d (.ofMicros n)).universalText) .timestamptz =
      .ok (Octets.bigInt 8 (d.toDays * Clock.dayMicros + n)) := by
  have hread := Moment.readZoned?_universalText (m := ⟨d, .ofMicros n⟩) hd (Clock.ofMicros_valid h)
  rw [bindText, String.toList_ofList, hread, bindRead, Moment.toMicros_ofMicros]

end Calendar

/-! ### Cells -/

section Cells

variable {t : DataType} {bs : List UInt8} {v : Value}

theorem Cell.known (h : Cell t bs v) : DataType.known.contains t = true := by
  cases h with
  | int n ht => exact known_of_range ht
  | @text t s ht =>
    cases t with
    | text | varchar | bpchar | name | unknown => rfl
    | _ => cases ht
  | _ => rfl

/-- A cell is read as its value. -/
theorem Cell.decodes (h : Cell t bs v) : decodeCell? t bs = some v := by
  cases h with
  | bool b => cases b <;> rfl
  | int n ht hl hh => exact decodeCell?_of_bindInt ht (bindInt_range ht hl hh)
  | text s ht => exact decodeCell?_text ht s
  | bytes bs => rfl
  | uuid bs hlen =>
    rw [decodeCell?, sized?, if_pos hlen]
    rfl
  | date d hd =>
    rw [decodeCell?, int?_date hd, Option.bind_eq_bind, Option.bind_some,
      Date.ofDays?_toDays hd.valid]
    rfl
  | time n hn =>
    have hmod : ((n : Int) % Clock.dayMicros).toNat = n := by
      rw [Int.emod_eq_of_lt (by omega) (by omega), Int.toNat_natCast]
    rw [decodeCell?, int?_time hn]
    exact congrArg (fun k => some (ofChars (Clock.ofMicros k).text)) hmod
  | timestamp d n hd hn =>
    rw [decodeCell?, int?_micros hd hn, Option.bind_eq_bind, Option.bind_some,
      Moment.ofMicros?_toDays hd hn]
    rfl
  | timestamptz d n hd hn =>
    rw [decodeCell?, int?_micros hd hn, Option.bind_eq_bind, Option.bind_some,
      Moment.ofMicros?_toDays hd hn]
    rfl

/-- The value of a cell is bound as the cell. -/
theorem Cell.encodes (h : Cell t bs v) : encode v t = .ok (some bs) := by
  have bound {b : Bound} (hb : b = .ok bs) : some <$> b = .ok (some bs) := by
    rw [hb]
    rfl
  cases h with
  | bool b => rfl
  | int n ht hl hh => exact bound (bindInt_range ht hl hh)
  | text s ht => exact bound (bindText_text ht s)
  | bytes bs => rfl
  | uuid bs hlen =>
    refine bound ?_
    rw [bindText, String.toList_ofList, Uuid.read?_text hlen, bindRead, id_eq]
  | date d hd => exact bound (bindText_date hd)
  | time n hn => exact bound (bindText_time hn)
  | timestamp d n hd hn => exact bound (bindText_timestamp hd hn)
  | timestamptz d n hd hn => exact bound (bindText_timestamptz hd hn)

end Cells

/-- A cell is read as the value that goes with it, and this value is bound as the very cell; at the
types of whole numbers any octets of the width are a cell. The texts of dates, times of day and
moments on the way, with any microsecond of a day, are read as the same date, time or moment, and as
the same number of microseconds. -/
theorem encode_decodeColumn :
    (∀ (t : DataType) (bs : List UInt8) (v : Value), Cell t bs v → ∀ name index,
        decodeColumn ⟨name, t⟩ index (some bs) = .ok v ∧ encode v t = .ok (some bs)) ∧
      (∀ (t : DataType) (bs : List UInt8), t.range?.isSome = true → bs.length = t.width →
        ∃ v, Cell t bs v) ∧
      ∀ (d : Date) (n : Nat), d.Common → n < Clock.dayMicros →
        Date.read? d.text = some d ∧
          Clock.read? (Clock.ofMicros n).text = some (.ofMicros n) ∧
          Moment.read? (Moment.mk d (.ofMicros n)).text = some ⟨d, .ofMicros n⟩ ∧
          (Moment.mk d (.ofMicros n)).toMicros = d.toDays * Clock.dayMicros + n ∧
          Moment.readZoned? (Moment.mk d (.ofMicros n)).universalText =
            some (d.toDays * Clock.dayMicros + n) := by
  refine ⟨?_, ?_, ?_⟩
  · intro t bs v h name index
    refine ⟨?_, h.encodes⟩
    rw [decodeColumn, if_pos h.known]
    simp only [h.decodes]
  · intro t bs ht hlen
    obtain ⟨⟨low, high⟩, hr⟩ := Option.isSome_iff_exists.1 ht
    obtain ⟨n, ⟨hl, hh⟩, rfl⟩ := exists_bigInt hr hlen
    exact ⟨_, .int n hr hl hh⟩
  · intro d n hd hn
    have hc := Clock.ofMicros_valid hn
    have hmicros := Moment.toMicros_ofMicros d n
    refine ⟨Date.read?_text hd, Clock.read?_text hc, Moment.read?_text hd hc, hmicros, ?_⟩
    rw [← hmicros]
    exact Moment.readZoned?_universalText hd hc

/-- The last microsecond of the year 9999, the last identifier of an object and a millisecond of the
first day of the year 1. -/
theorem encode_decodeColumn_last_microsecond :
    (decodeColumn ⟨"at", .timestamptz⟩ 0 (some [3, 128, 231, 11, 145, 59, 127, 255]) =
          .ok (.text "9999-12-31T23:59:59.999999+00:00") ∧
        encode (.text "9999-12-31T23:59:59.999999+00:00") .timestamptz =
          .ok (some [3, 128, 231, 11, 145, 59, 127, 255])) ∧
      (∃ v, Cell .oid [255, 255, 255, 255] v) ∧
      Moment.read? "0001-01-01 00:00:00.001".toList = some ⟨⟨1, 1, 1⟩, ⟨0, 0, 0, 1000000⟩⟩ := by
  obtain ⟨carried, whole, reads⟩ := encode_decodeColumn
  have hlast : Cell .timestamptz [3, 128, 231, 11, 145, 59, 127, 255]
      (.text "9999-12-31T23:59:59.999999+00:00") :=
    Cell.timestamptz ⟨9999, 12, 31⟩ 86399999999 ⟨by decide, by decide, by decide⟩ (by decide)
  obtain ⟨-, -, hfirst, -⟩ := reads ⟨1, 1, 1⟩ 1000 ⟨by decide, by decide, by decide⟩ (by decide)
  exact ⟨carried _ _ _ hlast "at" 0, whole _ _ rfl rfl, hfirst⟩

end Postgres

end FluentSql
