import FluentSql.MySql.Codec
import FluentSql.Proofs.Number.Numeral
import FluentSql.Proofs.Number.Octets
import FluentSql.Proofs.Value.Integers

/-! Columns of whole numbers. The server sends a number in as many octets as the type of its column
has, and the column says whether the first half of them or all stand for numbers without sign. So
every number of a column is read back as it was, `decodeColumn_integer`: as a 64-bit integer with
sign, or as its decimal text where that has no room for it. -/

namespace FluentSql.MySql

/-- The sizes of whole numbers: `TINYINT`, `SMALLINT`, `MEDIUMINT`, `INT` and `BIGINT`. -/
inductive IntegerSize where
  | tiny
  | small
  | medium
  | regular
  | big
  deriving DecidableEq, Repr

namespace IntegerSize

def bits : IntegerSize → Nat
  | .tiny => 8
  | .small => 16
  | .medium => 24
  | .regular => 32
  | .big => 64

/-- The octets of a number on the wire, where 24 bits take as many as 32. -/
def octets : IntegerSize → Nat
  | .tiny => 1
  | .small => 2
  | .medium | .regular => 4
  | .big => 8

end IntegerSize

/-- The types of columns of whole numbers. -/
inductive IntegerType where
  | sized (size : IntegerSize) (unsigned : Bool)
  | year
  deriving DecidableEq, Repr

namespace IntegerType

def isUnsigned : IntegerType → Bool
  | .sized _ unsigned => unsigned
  | .year => true

def octets : IntegerType → Nat
  | .sized size _ => size.octets
  | .year => 2

/-- The numbers of a type. -/
def Holds : IntegerType → Int → Prop
  | .sized size true, n => 0 ≤ n ∧ n < 2 ^ size.bits
  | .sized size false, n => -2 ^ (size.bits - 1) ≤ n ∧ n < 2 ^ (size.bits - 1)
  | .year, n => n = 0 ∨ 1901 ≤ n ∧ n ≤ 2155

instance : (t : IntegerType) → (n : Int) → Decidable (t.Holds n)
  | .sized size true, n => inferInstanceAs (Decidable (0 ≤ n ∧ n < 2 ^ size.bits))
  | .sized size false, n =>
    inferInstanceAs (Decidable (-2 ^ (size.bits - 1) ≤ n ∧ n < 2 ^ (size.bits - 1)))
  | .year, n => inferInstanceAs (Decidable (n = 0 ∨ 1901 ≤ n ∧ n ≤ 2155))

/-- The octets of a number on the wire. -/
def wire (t : IntegerType) (n : Int) : List UInt8 :=
  Octets.littleInt t.octets n

end IntegerType

/-- The type of a column of whole numbers. A tiny integer of one digit is a truth value, whatever
its sign. -/
def Column.integerType? (c : Column) : Option IntegerType :=
  match c.type with
  | .tiny => if c.length = 1 then none else some (.sized .tiny c.unsigned)
  | .short => some (.sized .small c.unsigned)
  | .int24 => some (.sized .medium c.unsigned)
  | .long => some (.sized .regular c.unsigned)
  | .longLong => some (.sized .big c.unsigned)
  | .year => some .year
  | _ => none

theorem Column.content_of_integerType? {c : Column} {t : IntegerType}
    (h : c.integerType? = some t) :
    c.content = if t.isUnsigned then .unsigned else .signed := by
  obtain ⟨name, type, length, unsigned, binary⟩ := c
  cases type <;> simp only [integerType?] at h <;> grind [Column.content, IntegerType.isUnsigned]

/-! ### Numbers and their octets -/

namespace IntegerType

variable {t : IntegerType} {n : Int}

/-- The octets of a type have room for its numbers. -/
theorem bounds_of_unsigned (ht : t.isUnsigned = true) (h : t.Holds n) :
    0 ≤ n ∧ n < Octets.span t.octets ∧ n < 2 ^ 64 := by
  cases t with
  | sized size unsigned =>
    cases ht
    cases size <;> simp only [Holds, IntegerSize.bits] at h <;>
      simp only [octets, IntegerSize.octets, Octets.span, Nat.pow_eq] <;> omega
  | year =>
    simp only [Holds] at h
    simp only [octets, Octets.span, Nat.pow_eq]
    omega

theorem bounds_of_signed (ht : t.isUnsigned = false) (h : t.Holds n) :
    (-(Octets.span t.octets : Int) ≤ 2 * n ∧ 2 * n < Octets.span t.octets) ∧
      -2 ^ 63 ≤ n ∧ n < 2 ^ 63 := by
  cases t with
  | sized size unsigned =>
    cases ht
    cases size <;> simp only [Holds, IntegerSize.bits] at h <;>
      simp only [octets, IntegerSize.octets, Octets.span, Nat.pow_eq] <;> omega
  | year => cases ht

theorem lt_of_holds (h : t.Holds n) : -2 ^ 63 ≤ n ∧ n < 2 ^ 64 := by
  cases ht : t.isUnsigned with
  | true => have := bounds_of_unsigned ht h; omega
  | false => have := bounds_of_signed ht h; omega

end IntegerType

/-- The value of a number: the number itself, or its decimal text beyond 64 bits with sign. -/
def numberValue (n : Int) : Value :=
  if n < 2 ^ 63 then .int (.ofInt n) else .text (toString n.toNat)

theorem numberValue_inj {m n : Int} (hm : -2 ^ 63 ≤ m) (hn : -2 ^ 63 ≤ n)
    (h : numberValue m = numberValue n) : m = n := by
  unfold numberValue at h
  split at h <;> split at h
  · next hm' hn' =>
    have hofInt : Int64.ofInt m = Int64.ofInt n := Value.int.inj h
    rw [← Int64.toInt_ofInt_of_le hm hm', hofInt, Int64.toInt_ofInt_of_le hn hn']
  · cases h
  · cases h
  · have hdigits : Nat.toDigits 10 m.toNat = Nat.toDigits 10 n.toNat :=
      String.ofList_injective (Value.text.inj h)
    have htoNat : m.toNat = n.toNat := by
      rw [← natOfDigits_toDigits m.toNat, hdigits, natOfDigits_toDigits]
    omega

section Column

variable {c : Column} {t : IntegerType} {n : Int}

theorem decodeCell_wire (hc : c.integerType? = some t) (h : t.Holds n) :
    decodeCell c.content (t.wire n) = .ok (numberValue n) := by
  rw [Column.content_of_integerType? hc]
  cases ht : t.isUnsigned with
  | true =>
    obtain ⟨hnonneg, hspan, hlt⟩ := IntegerType.bounds_of_unsigned ht h
    have hread : (Octets.ofLittle (t.wire n) : Int) = n := Octets.ofLittle_littleInt hnonneg hspan
    have hnat : Octets.ofLittle (t.wire n) = n.toNat := by omega
    show Except.ok (Value.ofUInt64 (.ofNat (Octets.ofLittle (t.wire n)))) = _
    rw [hnat, numberValue]
    split
    next hsmall =>
      rw [Value.ofUInt64_of_lt (by omega), ← Int.toNat_of_nonneg hnonneg]
      rfl
    next hlarge => rw [Value.ofUInt64_of_le (by omega) (by omega)]
  | false =>
    obtain ⟨⟨hlow, hhigh⟩, -, hlt⟩ := IntegerType.bounds_of_signed ht h
    have hread : Octets.intOfLittle (t.wire n) = n := Octets.intOfLittle_littleInt hlow hhigh
    show Except.ok (Value.int (.ofInt (Octets.intOfLittle (t.wire n)))) = _
    rw [hread, numberValue, if_pos hlt]

theorem decodeColumn_wire (hc : c.integerType? = some t) (index : Nat) (h : t.Holds n) :
    decodeColumn c index (some (t.wire n)) = .ok (numberValue n) := by
  rw [decodeColumn, decodeCell_wire hc h]
  rfl

end Column

/-- What is read of the numbers of a type. -/
structure ReadsExactly (t : IntegerType) (read : List UInt8 → Except CellError Value) : Prop where
  small : ∀ n, t.Holds n → n ≤ 2 ^ 63 - 1 → ∃ m, read (t.wire n) = .ok (.int m) ∧ m.toInt = n
  large : ∀ n, t.Holds n → 2 ^ 63 - 1 < n →
    read (t.wire n) = .ok (.text (String.ofList (Nat.toDigits 10 n.toNat)))
  /-- No number without sign becomes a negative one. -/
  nonnegative : t.isUnsigned → ∀ n m, t.Holds n → read (t.wire n) = .ok (.int m) → 0 ≤ m.toInt
  /-- No negative number becomes another. -/
  negative : ∀ n, t.Holds n → n < 0 → ∃ m, read (t.wire n) = .ok (.int m) ∧ m.toInt < 0
  distinct : ∀ m n, t.Holds m → t.Holds n → read (t.wire m) = read (t.wire n) → m = n

/-- A column of whole numbers, of whatever type, gives each of its numbers as it is. -/
theorem decodeColumn_integer {c : Column} {t : IntegerType} (h : c.integerType? = some t)
    (index : Nat) : ReadsExactly t fun cell => decodeColumn c index (some cell) := by
  have hwire (n : Int) (hn : t.Holds n) := decodeColumn_wire h index hn
  have hsmall (n : Int) (hn : t.Holds n) (hle : n ≤ 2 ^ 63 - 1) :
      ∃ m, decodeColumn c index (some (t.wire n)) = .ok (.int m) ∧ m.toInt = n := by
    have hlow := (IntegerType.lt_of_holds hn).1
    refine ⟨.ofInt n, ?_, Int64.toInt_ofInt_of_le hlow (by omega)⟩
    rw [hwire n hn, numberValue, if_pos (by omega)]
  refine ⟨hsmall, fun n hn hlt => ?_, fun ht n m hn hm => ?_, fun n hn hneg => ?_,
    fun m n hm hn heq => ?_⟩
  · rw [hwire n hn, numberValue, if_neg (by omega)]
    rfl
  · have hnonneg := (IntegerType.bounds_of_unsigned ht hn).1
    rw [hwire n hn, numberValue] at hm
    split at hm
    next hlt =>
      cases hm
      rw [Int64.toInt_ofInt_of_le (by omega) hlt]
      exact hnonneg
    next => cases hm
  · obtain ⟨m, hm, rfl⟩ := hsmall n hn (by omega)
    exact ⟨m, hm, hneg⟩
  · rw [hwire m hm, hwire n hn] at heq
    exact numberValue_inj (IntegerType.lt_of_holds hm).1 (IntegerType.lt_of_holds hn).1
      (Except.ok.inj heq)

/-- The bounds of the largest type without sign, and those of a type with sign. -/
theorem decodeColumn_integer_bounds :
    let id : Column := { name := "id", type := .longLong, unsigned := true }
    let n : Column := { name := "n", type := .int24 }
    (id.integerType? = some (.sized .big true) ∧ n.integerType? = some (.sized .medium false)) ∧
      decodeColumn id 0 (some [255, 255, 255, 255, 255, 255, 255, 255]) =
        .ok (.text "18446744073709551615") ∧
      ∃ m, decodeColumn n 1 (some [0, 0, 128, 255]) = .ok (.int m) ∧ m.toInt = -8388608 := by
  intro id n
  have hlarge := (@decodeColumn_integer id (.sized .big true) rfl 0).large 18446744073709551615
    (by decide) (by decide)
  have hsmall := (@decodeColumn_integer n (.sized .medium false) rfl 1).small (-8388608)
    (by decide) (by decide)
  exact ⟨⟨rfl, rfl⟩, hlarge, hsmall⟩

end FluentSql.MySql
