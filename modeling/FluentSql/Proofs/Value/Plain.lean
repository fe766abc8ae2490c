import FluentSql.Proofs.Value.Integers

/-! Values that are written as JSON and read back. A document does not name the kinds of the values
in it, and yet a value comes back as it was, whatever lists are nested in it, but for two kinds that
documents do not have: octets come back as a list of numbers, and a double that is no finite number
as null, `ofJson_toJson_plain`. -/

namespace FluentSql.Value

mutual
/-- What a value comes back as. -/
def plain : Value → Value
  | .bytes bs => .list (bs.map fun b => .int (.ofInt b.toNat))
  | .float x => if x.isFinite then .float x else .null
  | .list items => .list (plainList items)
  | v => v

def plainList : List Value → List Value
  | [] => []
  | v :: vs => plain v :: plainList vs
end

/-- Neither octets nor a double that is no finite number. -/
def isPlain : Value → Bool
  | .bytes _ => false
  | .float x => x.isFinite
  | _ => true

theorem plainList_eq_map (vs : List Value) : plainList vs = vs.map plain := by
  induction vs with
  | nil => rfl
  | cons v vs ih => rw [plainList, ih, List.map_cons]

theorem plain_float_of_isFinite {x : Double} (h : x.isFinite) : plain (.float x) = .float x :=
  if_pos h

/-! ### There and back -/

theorem ofJson_toInt (n : Int64) : ofJson (.integer n.toInt) = .int n := by
  rw [ofJson_integer_of_lt n.le_toInt n.toInt_lt, Int64.ofInt_toInt]

theorem ofJson_octet (b : UInt8) : ofJson (.integer b.toNat) = .int (.ofInt b.toNat) := by
  have hb : b.toNat < 256 := b.toNat_lt
  exact ofJson_integer_of_lt (by omega) (by omega)

mutual
theorem ofJson_toJson (v : Value) : ofJson v.toJson = v.plain := by
  cases v with
  | null | bool _ | text _ => rfl
  | int n => exact ofJson_toInt n
  | float x =>
    rw [toJson, plain]
    split <;> rfl
  | bytes bs =>
    rw [toJson, ofJson, plain, ofJsonList_eq_map, List.map_map]
    exact congrArg Value.list (List.map_congr_left fun b _ => ofJson_octet b)
  | list items => exact congrArg Value.list (ofJsonList_toJsonList items)

theorem ofJsonList_toJsonList (vs : List Value) : ofJsonList (toJsonList vs) = plainList vs := by
  cases vs with
  | nil => rfl
  | cons v vs => rw [toJsonList, ofJsonList, plainList, ofJson_toJson v, ofJsonList_toJsonList vs]
end

mutual
/-- What has come back once comes back as it is. -/
theorem plain_plain (v : Value) : v.plain.plain = v.plain := by
  cases v with
  | null | bool _ | int _ | text _ => rfl
  | float x =>
    by_cases h : x.isFinite
    · rw [plain_float_of_isFinite h, plain_float_of_isFinite h]
    · have hnull : plain (.float x) = .null := if_neg h
      rw [hnull]
      rfl
  | bytes bs =>
    rw [plain, plain, plainList_eq_map, List.map_map]
    rfl
  | list items => exact congrArg Value.list (plainList_plainList items)

theorem plainList_plainList (vs : List Value) : plainList (plainList vs) = plainList vs := by
  cases vs with
  | nil => rfl
  | cons v vs => rw [plainList, plainList, plain_plain v, plainList_plainList vs]
end

/-! ### The parts of a value -/

/-- Each part comes back in its place. -/
theorem at?_plain {path : List Nat} {v w : Value} (h : v.at? path = some w) :
    v.plain.at? path = some w.plain := by
  induction path generalizing v with
  | nil =>
    cases h
    rfl
  | cons i path ih =>
    cases v with
    | list items =>
      obtain ⟨u, hu, hw⟩ := Option.bind_eq_some_iff.1 h
      rw [plain, at?, plainList_eq_map, List.getElem?_map, hu]
      exact ih hw
    | _ => cases h

theorem isPlain_of_plain_eq {v : Value} (h : v.plain = v) : v.isPlain := by
  cases v with
  | bytes bs => cases h
  | float x =>
    rw [plain] at h
    split at h
    next hx => exact hx
    next => cases h
  | _ => rfl

mutual
theorem plain_eq_of_parts (v : Value) (h : ∀ path w, v.at? path = some w → w.isPlain) :
    v.plain = v := by
  cases v with
  | null | bool _ | int _ | text _ => rfl
  | float x => exact plain_float_of_isFinite (h [] _ rfl)
  | bytes bs => exact absurd (h [] _ rfl) Bool.false_ne_true
  | list items =>
    refine congrArg Value.list (plainList_eq_of_parts items ?_)
    intro i path v hv w hw
    exact h (i :: path) w (Option.bind_eq_some_iff.2 ⟨v, hv, hw⟩)

theorem plainList_eq_of_parts (vs : List Value)
    (h : ∀ (i : Nat) path v, vs[i]? = some v → ∀ w, v.at? path = some w → w.isPlain) :
    plainList vs = vs := by
  cases vs with
  | nil => rfl
  | cons v vs =>
    rw [plainList, plain_eq_of_parts v fun path => h 0 path v rfl,
      plainList_eq_of_parts vs fun i path => h (i + 1) path]
end

theorem plain_eq_iff (v : Value) :
    v.plain = v ↔ ∀ path w, v.at? path = some w → w.isPlain := by
  constructor
  · intro h path w hw
    have hplain := at?_plain hw
    rw [h, hw] at hplain
    exact isPlain_of_plain_eq (Option.some.inj hplain).symm
  · exact plain_eq_of_parts v

/-- A value that is written as a document and read back: octets have become a list of numbers and
doubles that are no finite numbers null, and each part of the value, in whatever lists it stands, is
in its place as the part comes back by itself; so a whole double is still a double. The value is
what it was exactly if it has no such octets and doubles, and a second time changes nothing. -/
theorem ofJson_toJson_plain (v : Value) :
    ofJson v.toJson = v.plain ∧
      (∀ path w, v.at? path = some w →
        (ofJson v.toJson).at? path = some w.plain) ∧
      (∀ path x, v.at? path = some (.float x) → x.isFinite →
        (ofJson v.toJson).at? path = some (.float x)) ∧
      (ofJson v.toJson = v ↔ ∀ path w, v.at? path = some w → w.isPlain) ∧
      ofJson (ofJson v.toJson).toJson = ofJson v.toJson := by
  rw [ofJson_toJson v, ofJson_toJson v.plain]
  refine ⟨rfl, fun path w => at?_plain, ?_, plain_eq_iff v, plain_plain v⟩
  intro path x hx hfinite
  rw [at?_plain hx, plain_float_of_isFinite hfinite]

/-- A whole double beside octets and a double that is no number, in lists of different depth. -/
theorem ofJson_toJson_plain_nested :
    let one : Double := ⟨0x3ff0000000000000⟩
    let inner := Value.list [.bytes [1, 255], .float ⟨0x7ff8000000000000⟩, .int 1]
    let v := Value.list [.float one, inner]
    (v.at? [0] = some (.float one) ∧ one.isFinite ∧ v.at? [1] = some inner) ∧
      (ofJson v.toJson).at? [0] = some (.float one) ∧
      (ofJson v.toJson).at? [1] = some (.list [.list [.int 1, .int 255], .null, .int 1]) := by
  intro one inner v
  obtain ⟨-, parts, floats, -⟩ := ofJson_toJson_plain v
  exact ⟨⟨rfl, by decide, rfl⟩, floats [0] one rfl (by decide), parts [1] inner rfl⟩

end FluentSql.Value
