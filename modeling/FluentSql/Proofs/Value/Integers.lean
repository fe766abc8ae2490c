import FluentSql.Value
import Mathlib.Algebra.Ring.Int.Defs
import Mathlib.Algebra.Ring.Nat

/-! Whole numbers of JSON documents as values. A document holds whole numbers of 64 bits, with sign
or without. Up to the largest with sign they are kept, wherever they stand in arrays, as a direct
conversion keeps them. Beyond it the direct conversion keeps their decimal text, but a document gives
the nearest double, `ofJson_integer_at`: two numbers may become one. -/

namespace FluentSql

/-- What stands at a path of places in arrays. -/
def Json.at? : List Nat → Json → Option Json
  | [], d => some d
  | i :: path, .array items => items[i]? >>= at? path
  | _ :: _, _ => none

namespace Value

/-- What stands at a path of places in lists. -/
def at? : List Nat → Value → Option Value
  | [], v => some v
  | i :: path, .list items => items[i]? >>= at? path
  | _ :: _, _ => none

theorem ofJsonList_eq_map (xs : List Json) : ofJsonList xs = xs.map ofJson := by
  induction xs with
  | nil => rfl
  | cons x xs ih => rw [ofJsonList, ih, List.map_cons]

/-- Conversion goes on item by item. -/
theorem at?_ofJson (path : List Nat) (d : Json) :
    (ofJson d).at? path = (d.at? path).map ofJson := by
  induction path generalizing d with
  | nil => rfl
  | cons i path ih =>
    cases d with
    | array items =>
      rw [ofJson, at?, Json.at?, ofJsonList_eq_map, List.getElem?_map]
      cases items[i]? with
      | none => rfl
      | some d => exact ih d
    | integer n =>
      rw [ofJson]
      split <;> rfl
    | null | bool _ | float _ | string _ | object _ => rfl

/-! ### Whole numbers -/

theorem bounds_int64 (n : Int) :
    (Int64.minValue.toInt ≤ n ∧ n ≤ Int64.maxValue.toInt) ↔ -2 ^ 63 ≤ n ∧ n < 2 ^ 63 := by
  have hmin : Int64.minValue.toInt = -2 ^ 63 := by decide
  have hmax : Int64.maxValue.toInt = 2 ^ 63 - 1 := by decide
  rw [hmin, hmax]
  omega

theorem ofJson_integer_of_lt {n : Int} (hlow : -2 ^ 63 ≤ n) (h : n < 2 ^ 63) :
    ofJson (.integer n) = .int (.ofInt n) := by
  rw [ofJson, if_pos ((bounds_int64 n).2 ⟨hlow, h⟩)]

theorem ofJson_integer_of_le {n : Int} (h : 2 ^ 63 ≤ n) :
    ofJson (.integer n) = .float (.ofInt n) := by
  rw [ofJson, if_neg]
  intro hn
  have := ((bounds_int64 n).1 hn).2
  omega

theorem ofUInt64_of_lt {n : Nat} (h : n < 2 ^ 63) :
    ofUInt64 (.ofNat n) = .int (.ofNat n) := by
  have hsize : n < UInt64.size := by
    show n < 2 ^ 64
    omega
  have hn : (UInt64.ofNat n).toNat = n := UInt64.toNat_ofNat_of_lt' hsize
  rw [ofUInt64, hn, if_pos]
  show 2 * n < 2 ^ 64
  omega

theorem ofUInt64_of_le {n : Nat} (h : 2 ^ 63 ≤ n) (h' : n < 2 ^ 64) :
    ofUInt64 (.ofNat n) = .text (toString n) := by
  have hn : (UInt64.ofNat n).toNat = n := UInt64.toNat_ofNat_of_lt' h'
  rw [ofUInt64, hn, if_neg]
  show ¬ 2 * n < 2 ^ 64
  omega

/-- A whole number of 64 bits anywhere in the arrays of a document: up to the largest with sign it is
there in the value, and that is what converting the number itself gives. Beyond it the value has the
nearest double in its place, where converting the number itself gives its decimal text. -/
theorem ofJson_integer_at {d : Json} {path : List Nat} {n : Int}
    (h : d.at? path = some (.integer n)) (hlow : -2 ^ 63 ≤ n) (hhigh : n < 2 ^ 64) :
    (n < 2 ^ 63 → (ofJson d).at? path = some (.int (.ofInt n)) ∧ (Int64.ofInt n).toInt = n ∧
        (0 ≤ n → ofUInt64 (.ofNat n.toNat) = .int (.ofInt n))) ∧
      (2 ^ 63 ≤ n → (ofJson d).at? path = some (.float (.ofInt n)) ∧
        ofUInt64 (.ofNat n.toNat) = .text (toString n.toNat)) := by
  rw [at?_ofJson, h, Option.map_some]
  constructor
  · intro hn
    refine ⟨congrArg some (ofJson_integer_of_lt hlow hn), Int64.toInt_ofInt_of_le hlow hn, ?_⟩
    intro h0
    obtain ⟨m, rfl⟩ := Int.eq_ofNat_of_zero_le h0
    exact ofUInt64_of_lt (by omega)
  · intro hn
    exact ⟨congrArg some (ofJson_integer_of_le hn), ofUInt64_of_le (by omega) (by omega)⟩

theorem ofJson_integer_at_bounds :
    let largest : Int := 9223372036854775807
    let d := Json.array [.string "ids", .array [.integer largest, .integer (largest + 1)]]
    (d.at? [1, 0] = some (.integer largest) ∧ d.at? [1, 1] = some (.integer (largest + 1))) ∧
      (ofJson d).at? [1, 0] = some (.int (.ofInt largest)) ∧
      (ofJson d).at? [1, 1] = some (.float (.ofInt (largest + 1))) := by
  intro largest d
  obtain ⟨hkept, -⟩ := @ofJson_integer_at d [1, 0] largest rfl (by decide) (by decide)
  obtain ⟨-, hrounded⟩ := @ofJson_integer_at d [1, 1] (largest + 1) rfl (by decide) (by decide)
  exact ⟨⟨rfl, rfl⟩, (hkept (by decide)).1, (hrounded (by decide)).1⟩

/-- Two numbers of a document that become one value, and not the text that either is by itself. -/
theorem large_integers_rounded :
    let d := Json.array [.integer 9223372036854775808, .integer 9223372036854775809]
    d.at? [0] = some (.integer 9223372036854775808) ∧
      d.at? [1] = some (.integer 9223372036854775809) ∧
      (ofJson d).at? [0] = some (.float ⟨0x43e0000000000000⟩) ∧
      (ofJson d).at? [1] = some (.float ⟨0x43e0000000000000⟩) ∧
      ofUInt64 9223372036854775809 = .text "9223372036854775809" ∧
      (ofJson d).at? [1] ≠ some (ofUInt64 9223372036854775809) := by
  intro d
  have hdouble : Double.ofInt 9223372036854775809 = ⟨0x43e0000000000000⟩ := by decide +kernel
  have hfirst : Double.ofInt 9223372036854775808 = ⟨0x43e0000000000000⟩ := by decide +kernel
  have htext : ofUInt64 9223372036854775809 = .text "9223372036854775809" :=
    ofUInt64_of_le (n := 9223372036854775809) (by decide) (by decide)
  have hat : (ofJson d).at? [1] = some (.float (.ofInt 9223372036854775809)) := rfl
  refine ⟨rfl, rfl, ?_, ?_, htext, ?_⟩
  · rw [← hfirst]
    rfl
  · rw [← hdouble]
    rfl
  · rw [hat, htext]
    simp

end Value

end FluentSql
