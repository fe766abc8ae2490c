import FluentSql.Postgres.Codec
import FluentSql.Proofs.Number.Numeral
import FluentSql.Proofs.Number.Octets
import FluentSql.Proofs.Text.Utf8
import FluentSql.Proofs.Uuid

/-! What comes back of a parameter. At the types that hold values exactly, a value is bound as the
one canonical form that it has there, or it is refused: the cell that it is written to is read as
that form, `encode_unaltered`. Whole numbers are refused just where they leave the type's range. -/

namespace FluentSql.Postgres

namespace DataType

/-- The least and the greatest number of a type of whole numbers. -/
def range? : DataType → Option (Int × Int)
  | .int2 => some (-0x8000, 0x7FFF)
  | .int4 => some (-0x80000000, 0x7FFFFFFF)
  | .int8 => some (-0x8000000000000000, 0x7FFFFFFFFFFFFFFF)
  | .oid => some (0, 0xFFFFFFFF)
  | _ => none

/-- The types that hold values as they are, neither rounded nor written anew. -/
def exact : List DataType :=
  [.bool, .int2, .int4, .int8, .oid, .text, .varchar, .bpchar, .name, .unknown, .bytea, .uuid]

/-- No type holds both whole numbers and text. -/
theorem ne_of_range {t : DataType} (h : t.range?.isSome = true) (h' : t.isText = true) : False := by
  cases t with
  | int2 | int4 | int8 | oid => cases h'
  | _ => cases h

theorem known_of_exact {t : DataType} (h : t ∈ exact) : known.contains t = true := by
  have hall : ∀ t ∈ exact, known.contains t = true := by decide
  exact hall t h

/-- The kinds of exact types. -/
theorem kinds_of_exact {t : DataType} (h : t ∈ exact) :
    t = .bool ∨ t.range?.isSome = true ∨ t.isText = true ∨ t = .bytea ∨ t = .uuid := by
  have hall : ∀ t ∈ exact,
      t = .bool ∨ t.range?.isSome = true ∨ t.isText = true ∨ t = .bytea ∨ t = .uuid := by decide
  exact hall t h

end DataType

/-- The value that stands for another at a type. -/
inductive Canonical : Value → DataType → Value → Prop where
  | null (t : DataType) : Canonical .null t .null
  | bool (b : Bool) : Canonical (.bool b) .bool (.bool b)
  /-- A number is true if it is not zero. -/
  | truth (n : Int64) : Canonical (.int n) .bool (.bool (n ≠ 0))
  | int (n : Int64) {t : DataType} : t.range?.isSome = true → Canonical (.int n) t (.int n)
  /-- A numeral, whatever blanks stand around it; identifiers of objects have none. -/
  | numeral {s : String} {n : Int64} {t : DataType} : t.range?.isSome = true → t ≠ .oid →
      Numeral (Text.trim s).toList n.toInt → Canonical (.text s) t (.int n)
  | digits (n : Int64) {t : DataType} : t.isText = true →
      Canonical (.int n) t (.text (toString n.toInt))
  | text (s : String) {t : DataType} : t.isText = true → Canonical (.text s) t (.text s)
  | bytes (bs : List UInt8) : Canonical (.bytes bs) .bytea (.bytes bs)
  /-- Digits in lower case and in groups. -/
  | uuid {s : String} {ds : List Char} : Uuid.Spells s.toList ds →
      Canonical (.text s) .uuid
        (.text (String.ofList (Uuid.group Uuid.groups (ds.map Char.toLower))))

/-- A value has one canonical form at a type. -/
theorem Canonical.unique {v w w' : Value} {t : DataType} (h : Canonical v t w)
    (h' : Canonical v t w') : w = w' := by
  cases h with
  | null => cases h'; rfl
  | bool => cases h'; rfl
  | truth n =>
    cases h' with
    | truth => rfl
    | int _ ht => cases ht
    | digits _ ht => cases ht
  | int n ht =>
    cases h' with
    | truth => cases ht
    | int => rfl
    | digits _ ht' => exact (DataType.ne_of_range ht ht').elim
  | @numeral s n t ht ho hn =>
    cases h' with
    | numeral _ _ hn' =>
      have hnn := Numeral.unique hn hn'
      rw [Int64.toInt_inj.1 hnn]
    | text _ ht' => exact (DataType.ne_of_range ht ht').elim
    | uuid => cases ht
  | digits n ht =>
    cases h' with
    | truth => cases ht
    | int _ ht' => exact (DataType.ne_of_range ht' ht).elim
    | digits => rfl
  | text s ht =>
    cases h' with
    | numeral ht' => exact (DataType.ne_of_range ht' ht).elim
    | text => rfl
    | uuid => cases ht
  | bytes => cases h'; rfl
  | uuid hs =>
    cases h' with
    | numeral ht' => cases ht'
    | text _ ht' => cases ht'
    | uuid hs' => rw [hs.lower_eq hs']

/-! ### Whole numbers -/

section Integers

variable {n : Int64} {bs : List UInt8} {low high : Int} {t : DataType}

theorem encodeInt_eq_ok_iff {width : Nat} :
    encodeInt width low high n = .ok bs ↔
      (low ≤ n.toInt ∧ n.toInt ≤ high) ∧ bs = Octets.bigInt width n.toInt := by
  rw [encodeInt]
  split
  next h => simp [h, eq_comm]
  next h => simp [h]

/-- A number is bound to a type of whole numbers if it lies in the range. -/
theorem bindInt_eq_ok_iff (ht : t.range? = some (low, high)) :
    (∃ bs, bindInt n t = .ok bs) ↔ low ≤ n.toInt ∧ n.toInt ≤ high := by
  have h8 : -0x8000000000000000 ≤ n.toInt ∧ n.toInt ≤ 0x7FFFFFFFFFFFFFFF :=
    ⟨Int64.le_toInt n, Int.le_sub_one_of_lt (Int64.toInt_lt n)⟩
  cases t with
  | int2 =>
    cases ht
    simp only [bindInt, encodeInt_eq_ok_iff, exists_and_left, exists_eq, and_true]
    exact Iff.rfl
  | int4 =>
    cases ht
    simp only [bindInt, encodeInt_eq_ok_iff, exists_and_left, exists_eq, and_true]
    exact Iff.rfl
  | int8 =>
    cases ht
    exact iff_of_true ⟨_, rfl⟩ h8
  | oid =>
    cases ht
    simp only [bindInt, encodeInt_eq_ok_iff, exists_and_left, exists_eq, and_true]
    exact Iff.rfl
  | _ => cases ht

theorem int?_bigInt {width : Nat} {m : Int} (h : -(Octets.span width : Int) ≤ 2 * m)
    (h' : 2 * m < Octets.span width) : int? width (Octets.bigInt width m) = some m := by
  rw [int?, sized?, Octets.bigInt, if_pos (Octets.length_big _ _)]
  exact congrArg some (Octets.intOfBig_bigInt h h')

theorem nat?_bigInt {width : Nat} {m : Int} (h : 0 ≤ m) (h' : m < Octets.span width) :
    nat? width (Octets.bigInt width m) = some m.toNat := by
  have hu : Octets.unsigned width m = m.toNat := by
    rw [Octets.unsigned, Int.emod_eq_of_lt h h']
  rw [nat?, sized?, Octets.bigInt, if_pos (Octets.length_big _ _), hu]
  exact congrArg some (Octets.ofBig_big (by omega))

/-- What was bound to a type of whole numbers is read as the number itself. -/
theorem decodeCell?_of_bindInt (ht : t.range? = some (low, high)) (h : bindInt n t = .ok bs) :
    decodeCell? t bs = some (.int n) := by
  obtain ⟨hl, hh⟩ := (bindInt_eq_ok_iff ht).1 ⟨bs, h⟩
  have signed (m : Int) (hm : m = n.toInt) : Value.int (.ofInt m) = .int n := by
    rw [hm, Int64.ofInt_toInt]
  cases t with
  | int2 =>
    cases ht
    obtain ⟨-, rfl⟩ := encodeInt_eq_ok_iff.1 h
    have hspan : (Octets.span 2 : Int) = 0x10000 := by decide
    rw [decodeCell?, int?_bigInt (by omega) (by omega)]
    exact congrArg some (signed _ rfl)
  | int4 =>
    cases ht
    obtain ⟨-, rfl⟩ := encodeInt_eq_ok_iff.1 h
    have hspan : (Octets.span 4 : Int) = 0x100000000 := by decide
    rw [decodeCell?, int?_bigInt (by omega) (by omega)]
    exact congrArg some (signed _ rfl)
  | int8 =>
    cases ht
    cases h
    have hspan : (Octets.span 8 : Int) = 0x10000000000000000 := by decide
    rw [decodeCell?, int?_bigInt (by omega) (by omega)]
    exact congrArg some (signed _ rfl)
  | oid =>
    cases ht
    obtain ⟨-, rfl⟩ := encodeInt_eq_ok_iff.1 h
    have hspan : (Octets.span 4 : Int) = 0x100000000 := by decide
    rw [decodeCell?, nat?_bigInt hl (by omega)]
    have hn : Int64.ofNat n.toInt.toNat = n := by
      rw [← Int64.ofInt_eq_ofNat, Int.toNat_of_nonneg hl, Int64.ofInt_toInt]
    exact congrArg (fun m => some (Value.int m)) hn
  | _ => cases ht

end Integers

/-! ### Texts -/

section Texts

variable {t : DataType} {bs : List UInt8}

theorem decodeCell?_text (ht : t.isText = true) (s : String) :
    decodeCell? t (Text.Utf8.encode s) = some (.text s) := by
  have hd : Value.text <$> Text.Utf8.decode? (Text.Utf8.encode s) = some (.text s) := by
    rw [Text.Utf8.decode?_encode]
    rfl
  cases t with
  | text | varchar | bpchar | name | unknown => exact hd
  | _ => cases ht

theorem bindInt_text (ht : t.isText = true) (n : Int64) :
    bindInt n t = .ok (Text.Utf8.encode (toString n.toInt)) := by
  cases t with
  | text | varchar | bpchar | name | unknown => rfl
  | _ => cases ht

theorem bindText_text (ht : t.isText = true) (s : String) :
    bindText s t = .ok (Text.Utf8.encode s) := by
  cases t with
  | text | varchar | bpchar | name | unknown => rfl
  | _ => cases ht

/-- A text is bound to a type of whole numbers as the number of which it is the numeral. -/
theorem exists_of_bindText {s : String} (ht : t.range?.isSome = true)
    (h : bindText s t = .ok bs) :
    t ≠ .oid ∧ ∃ n : Int64, Numeral (Text.trim s).toList n.toInt ∧ bindInt n t = .ok bs := by
  have hoid : t ≠ .oid := by
    rintro rfl
    simp only [bindText, textMark?, DataType.isText, Bool.false_eq_true, if_false,
      reduceCtorEq] at h
  refine ⟨hoid, ?_⟩
  cases hr : readInt64 (Text.trim s).toList with
  | error e =>
    cases t with
    | int2 | int4 | int8 => simp only [bindText, hr, reduceCtorEq] at h
    | oid => exact absurd rfl hoid
    | _ => cases ht
  | ok n =>
    refine ⟨n, readInt64_eq_ok_iff.1 hr, ?_⟩
    cases t with
    | int2 | int4 | int8 => simpa only [bindText, hr] using h
    | oid => exact absurd rfl hoid
    | _ => cases ht

end Texts

/-! ### Values -/

section Values

variable {t : DataType} {bs : List UInt8}

/-- What is written to a cell is read from it as the canonical form of a value. -/
def Carries (v : Value) (t : DataType) (bs : List UInt8) : Prop :=
  ∃ w, Canonical v t w ∧ decodeCell? t bs = some w

theorem carries_int {n : Int64} (ht : t ∈ DataType.exact) (h : bindInt n t = .ok bs) :
    Carries (.int n) t bs := by
  rcases DataType.kinds_of_exact ht with rfl | hr | hx | rfl | rfl
  · cases h
    refine ⟨_, .truth n, ?_⟩
    by_cases hn : n = 0
    · subst hn
      rfl
    · simp [encodeBool, decodeCell?, sized?, hn]
  · obtain ⟨⟨low, high⟩, hr'⟩ := Option.isSome_iff_exists.1 hr
    exact ⟨_, .int n hr, decodeCell?_of_bindInt hr' h⟩
  · rw [bindInt_text hx] at h
    cases h
    exact ⟨_, .digits n hx, decodeCell?_text hx _⟩
  · cases h
  · cases h

theorem carries_text {s : String} (ht : t ∈ DataType.exact) (h : bindText s t = .ok bs) :
    Carries (.text s) t bs := by
  rcases DataType.kinds_of_exact ht with rfl | hr | hx | rfl | rfl
  · cases h
  · obtain ⟨ho, n, hn, hb⟩ := exists_of_bindText hr h
    obtain ⟨⟨low, high⟩, hr'⟩ := Option.isSome_iff_exists.1 hr
    exact ⟨_, .numeral hr ho hn, decodeCell?_of_bindInt hr' hb⟩
  · rw [bindText_text hx] at h
    cases h
    exact ⟨_, .text s hx, decodeCell?_text hx s⟩
  · cases h
  · rw [bindText] at h
    cases hu : Uuid.read? s.toList with
    | none =>
      rw [hu] at h
      cases h
    | some octets =>
      rw [hu] at h
      cases h
      obtain ⟨hl, ds, hs, hd⟩ := Uuid.text_of_read? hu
      refine ⟨_, .uuid hs, ?_⟩
      rw [← hd, id_eq, decodeCell?, sized?, if_pos hl]
      rfl

end Values

/-- At the exact types nothing is altered on the way. What a value is bound as, if it is bound, is
read from a column of the type as the canonical form of the value, which is one only; doubles, which
these types do not hold as they are, are left out. A whole number is bound to a type of whole numbers
if and only if it lies in the range of the type. -/
theorem encode_unaltered :
    (∀ (v : Value) (t : DataType), (∀ x, v ≠ .float x) → t ∈ DataType.exact →
        ∀ cell, encode v t = .ok cell →
          ∃ w, Canonical v t w ∧ (∀ w', Canonical v t w' → w' = w) ∧
            ∀ name index, decodeColumn ⟨name, t⟩ index cell = .ok w) ∧
      ∀ (n : Int64) (t : DataType) (low high : Int), t.range? = some (low, high) →
        ((∃ cell, encode (.int n) t = .ok cell) ↔ low ≤ n.toInt ∧ n.toInt ≤ high) := by
  refine ⟨?_, ?_⟩
  · intro v t hv ht cell h
    have hknown := DataType.known_of_exact ht
    -- Whatever is bound goes into a cell, from which its canonical form is read.
    have column {b : Bound} (hb : some <$> b = .ok cell) (hc : ∀ bs, b = .ok bs → Carries v t bs) :
        ∃ w, Canonical v t w ∧ (∀ w', Canonical v t w' → w' = w) ∧
          ∀ name index, decodeColumn ⟨name, t⟩ index cell = .ok w := by
      cases b with
      | error e => cases hb
      | ok bs =>
        cases hb
        obtain ⟨w, hw, hd⟩ := hc bs rfl
        refine ⟨w, hw, fun w' hw' => hw'.unique hw, ?_⟩
        intro name index
        simp only [decodeColumn, hknown, if_true, hd]
    cases v with
    | null =>
      cases h
      refine ⟨_, .null t, fun w' hw' => hw'.unique (.null t), ?_⟩
      intro name index
      rw [decodeColumn, if_pos hknown]
    | bool b =>
      refine column h ?_
      intro bs hb
      rw [bindBool] at hb
      split at hb
      next hbool =>
        cases hb
        subst hbool
        refine ⟨_, .bool b, ?_⟩
        cases b <;> rfl
      next => cases hb
    | int n => exact column h fun bs hb => carries_int ht hb
    | float x => exact absurd rfl (hv x)
    | text s => exact column h fun bs hb => carries_text ht hb
    | bytes octets =>
      refine column h ?_
      intro bs hb
      rw [bindBytes] at hb
      split at hb
      next hbytea =>
        cases hb
        subst hbytea
        exact ⟨_, .bytes _, rfl⟩
      next => cases hb
    | list items => cases h
  · intro n t low high ht
    rw [← bindInt_eq_ok_iff ht]
    constructor
    · rintro ⟨cell, h⟩
      rw [encode] at h
      cases hb : bindInt n t with
      | error e =>
        rw [hb] at h
        cases h
      | ok bs => exact ⟨bs, rfl⟩
    · rintro ⟨bs, hb⟩
      exact ⟨some bs, by rw [encode, hb]; rfl⟩

/-- The least number of 16 bits has room, the one below it has none; a numeral is read. -/
theorem encode_unaltered_bounds :
    (encode (.int (-32768)) .int2 = .ok (some [0x80, 0]) ∧
        ∃ w, Canonical (.int (-32768)) .int2 w ∧
          decodeColumn ⟨"n", .int2⟩ 0 (some [0x80, 0]) = .ok w) ∧
      (¬ ∃ cell, encode (.int (-32769)) .int2 = .ok cell) ∧
      encode (.text " +7") .int2 = .ok (some [0, 7]) ∧
        ∃ w, Canonical (.text " +7") .int2 w ∧
          decodeColumn ⟨"n", .int2⟩ 0 (some [0, 7]) = .ok w := by
  obtain ⟨carried, bounds⟩ := encode_unaltered
  have hleast : encode (.int (-32768)) .int2 = .ok (some [0x80, 0]) := by decide
  have hseven : encode (.text " +7") .int2 = .ok (some [0, 7]) := by decide
  obtain ⟨w, hw, -, hd⟩ := carried (.int (-32768)) .int2 (by rintro x ⟨⟩) (by decide) _ hleast
  obtain ⟨u, hu, -, he⟩ := carried (.text " +7") .int2 (by rintro x ⟨⟩) (by decide) _ hseven
  refine ⟨⟨hleast, w, hw, hd "n" 0⟩, ?_, hseven, u, hu, he "n" 0⟩
  rw [bounds (-32769) .int2 _ _ rfl]
  decide

end FluentSql.Postgres
