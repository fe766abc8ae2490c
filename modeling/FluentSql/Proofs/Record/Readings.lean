import FluentSql.Proofs.Record.Pairs
import FluentSql.Query.Access
import Mathlib.Data.List.FinRange
import Mathlib.Data.List.Forall2

/-! Rows that are read column by column. A row is as many columns, each with a name and with what its
cell is read as. It comes to a record exactly if all its cells can be read, and the record has then
the names in the order in which they come first, each with what its last column holds,
`ofReadings_reads`. The rows of a result are read one after the other, all of them or none,
`readsAll`. -/

namespace FluentSql

/-! ### Reading one after the other -/

namespace Except

variable {ε α β : Type} {f : α → Except ε β} {xs : List α}

theorem mapM_eq_ok_iff {ys : List β} :
    xs.mapM f = .ok ys ↔ List.Forall₂ (fun x y => f x = .ok y) xs ys := by
  induction xs generalizing ys with
  | nil =>
    rw [List.mapM_nil, List.forall₂_nil_left_iff]
    exact ⟨fun h => (Except.ok.inj h).symm, fun h => h ▸ rfl⟩
  | cons x xs ih =>
    rw [List.mapM_cons, List.forall₂_cons_left_iff]
    cases hx : f x with
    | error e => simp [bind, Except.bind]
    | ok y =>
      cases hxs : xs.mapM f with
      | error e => simp [bind, Except.bind, ← ih, hxs]
      | ok zs => simp [bind, Except.bind, ← ih, hxs, pure, Except.pure, eq_comm]

/-- The error is that of the first that fails. -/
theorem exists_of_mapM_eq_error {e : ε} (h : xs.mapM f = .error e) :
    ∃ i, ∃ _ : i < xs.length, f xs[i] = .error e ∧ ∀ x ∈ xs.take i, ∃ y, f x = .ok y := by
  induction xs with
  | nil => cases h
  | cons x xs ih =>
    rw [List.mapM_cons] at h
    cases hx : f x with
    | error e' =>
      rw [hx] at h
      cases h
      exact ⟨0, Nat.succ_pos _, hx, List.forall_mem_nil _⟩
    | ok y =>
      rw [hx] at h
      cases hxs : xs.mapM f with
      | error e' =>
        rw [hxs] at h
        cases h
        obtain ⟨i, hi, he, hbefore⟩ := ih hxs
        exact ⟨i + 1, Nat.succ_lt_succ hi, he, List.forall_mem_cons.2 ⟨⟨y, hx⟩, hbefore⟩⟩
      | ok ys =>
        rw [hxs] at h
        cases h

theorem exists_mapM_eq_ok_iff :
    (∃ ys, xs.mapM f = .ok ys) ↔ ∀ x ∈ xs, ∃ y, f x = .ok y := by
  constructor
  · rintro ⟨ys, h⟩ x hx
    obtain ⟨i, hi, rfl⟩ := List.getElem_of_mem hx
    have hall := List.forall₂_iff_get.1 (mapM_eq_ok_iff.1 h)
    exact ⟨_, hall.2 i hi (hall.1 ▸ hi)⟩
  · intro h
    cases hxs : xs.mapM f with
    | ok ys => exact ⟨ys, rfl⟩
    | error e =>
      obtain ⟨i, hi, he, -⟩ := exists_of_mapM_eq_error hxs
      obtain ⟨y, hy⟩ := h _ (List.getElem_mem hi)
      cases he.symm.trans hy

end Except

/-! ### Rows -/

section Rows

variable {ε : Type}

/-- The columns of a row: so many, each with its name and what its cell is read as. -/
structure Columns (ε : Type) where
  width : Nat
  name : Fin width → String
  cell : Fin width → Except ε Value

namespace Columns

/-- The columns one after the other. -/
def readings (c : Columns ε) : List (String × Except ε Value) :=
  List.ofFn fun i => (c.name i, c.cell i)

/-- Columns from a list of them: each under its name, with its cell read by its place. -/
def of {κ : Type} (name : κ → String) (read : κ → Nat → Except ε Value) (columns : List κ) :
    Columns ε where
  width := columns.length
  name i := name columns[i]
  cell i := read columns[i] i

theorem readings_of {κ : Type} (name : κ → String) (read : κ → Nat → Except ε Value)
    (columns : List κ) :
    (of name read columns).readings = columns.zipIdx.map fun (c, i) => (name c, read c i) := by
  refine List.ext_getElem (by simp [readings, of]) fun i _ _ => ?_
  simp [readings, of]

/-- Every cell can be read. -/
def Readable (c : Columns ε) : Prop :=
  ∀ i, ∃ v, c.cell i = .ok v

theorem not_readable {c : Columns ε} {i : Fin c.width} {e : ε} (h : c.cell i = .error e) :
    ¬ c.Readable := by
  intro hc
  obtain ⟨v, hv⟩ := hc i
  cases h.symm.trans hv

end Columns

/-- A record with what the columns of a row hold: every name once, in the order in which the names
come first, with the value of its last column. -/
structure Record.Shows (c : Columns ε) (r : Record) : Prop where
  keys : r.keys = (List.ofFn c.name).eraseDups
  size : r.size = c.width ↔ Function.Injective c.name
  value : ∀ i v, c.cell i = .ok v → (∀ j, i < j → c.name j ≠ c.name i) →
    r.get? (c.name i) = some v

/-- What a row comes to: the record of all its columns, or the error of the first cell that cannot
be read. -/
structure ReadsRow (c : Columns ε) (result : Except ε Record) : Prop where
  ok_iff : (∃ r, result = .ok r) ↔ c.Readable
  record : ∀ r, result = .ok r → r.Shows c
  error : ∀ e, result = .error e →
    ∃ i, c.cell i = .error e ∧ ∀ j, j < i → ∃ v, c.cell j = .ok v

namespace Record

variable {c : Columns ε}

theorem error_of_named {k : String} {x : Except ε Value} {e : ε}
    (h : ((k, ·) <$> x : Except ε (String × Value)) = .error e) : x = .error e := by
  cases x with
  | error e' =>
    cases h
    rfl
  | ok v => cases h

theorem ok_of_named {k : String} {x : Except ε Value} {y : String × Value}
    (h : ((k, ·) <$> x : Except ε (String × Value)) = .ok y) : ∃ v, x = .ok v := by
  cases x with
  | error e => cases h
  | ok v => exact ⟨v, rfl⟩

/-- Where every cell is read, the record is that of the values under their names. -/
theorem ofReadings_of_values {value : Fin c.width → Value} (h : ∀ i, c.cell i = .ok (value i)) :
    ofReadings c.readings = .ok (ofPairs (List.ofFn fun i => (c.name i, value i))) := by
  have hmap : c.readings.mapM (fun p => (p.1, ·) <$> p.2) =
      (.ok (List.ofFn fun i => (c.name i, value i)) : Except ε (List (String × Value))) := by
    rw [Except.mapM_eq_ok_iff, Columns.readings, List.forall₂_iff_get]
    refine ⟨by simp, fun i _ _ => ?_⟩
    simp only [List.get_ofFn, h]
    rfl
  rw [ofReadings, hmap]
  rfl

theorem shows_ofPairs {value : Fin c.width → Value} (h : ∀ i, c.cell i = .ok (value i)) :
    (ofPairs (List.ofFn fun i => (c.name i, value i))).Shows c := by
  have hnames : (List.ofFn fun i => (c.name i, value i)).map Prod.fst = List.ofFn c.name :=
    List.map_ofFn
  refine ⟨?_, ?_, ?_⟩
  · rw [keys_ofPairs, hnames]
  · rw [← List.nodup_ofFn, ← hnames, ← size_ofPairs_iff, List.length_ofFn]
  · intro i v hv hlast
    have hi : i.val < (List.ofFn fun i => (c.name i, value i)).length := by simp
    have hvalue : value i = v := Except.ok.inj ((h i).symm.trans hv)
    have hget := get?_ofPairs_at hi
    simp only [List.getElem_ofFn, hvalue] at hget
    exact hget fun j _ hij => hlast _ hij

/-- An error is that of a cell, and those before it can be read. -/
theorem exists_of_ofReadings_eq_error {e : ε} (h : ofReadings c.readings = .error e) :
    ∃ i, c.cell i = .error e ∧ ∀ j, j < i → ∃ v, c.cell j = .ok v := by
  rw [ofReadings] at h
  cases hmap : c.readings.mapM (fun p => (p.1, ·) <$> p.2) with
  | ok pairs =>
    simp only [hmap] at h
    cases h
  | error e' =>
    simp only [hmap] at h
    cases h
    obtain ⟨i, hi, he, hbefore⟩ := Except.exists_of_mapM_eq_error hmap
    have hwidth : c.readings.length = c.width := List.length_ofFn
    refine ⟨⟨i, hwidth ▸ hi⟩, ?_, ?_⟩
    · simp only [Columns.readings, List.getElem_ofFn] at he
      exact error_of_named he
    · intro j hj
      have hlength : j.val < c.readings.length := hwidth.symm ▸ j.2
      have hplace : j.val < min i c.readings.length := Nat.lt_min.2 ⟨hj, hlength⟩
      have hmem : (c.name j, c.cell j) ∈ c.readings.take i :=
        List.mem_take_iff_getElem.2 ⟨j, hplace, List.getElem_ofFn _⟩
      obtain ⟨y, hy⟩ := hbefore _ hmem
      exact ok_of_named hy

theorem readable_of_ofReadings {r : Record} (h : ofReadings c.readings = .ok r) : c.Readable := by
  intro i
  rw [ofReadings] at h
  cases hmap : c.readings.mapM (fun p => (p.1, ·) <$> p.2) with
  | error e =>
    simp only [hmap] at h
    cases h
  | ok pairs =>
    obtain ⟨y, hy⟩ := Except.exists_mapM_eq_ok_iff.1 ⟨pairs, hmap⟩ _ (List.mem_ofFn.2 ⟨i, rfl⟩)
    exact ok_of_named hy

theorem ofReadings_reads (c : Columns ε) : ReadsRow c (ofReadings c.readings) where
  ok_iff := by
    constructor
    · rintro ⟨r, hr⟩
      exact readable_of_ofReadings hr
    · intro h
      obtain ⟨value, hvalue⟩ := Classical.skolem.1 h
      exact ⟨_, ofReadings_of_values hvalue⟩
  record r hr := by
    obtain ⟨value, hvalue⟩ := Classical.skolem.1 (readable_of_ofReadings hr)
    cases hr.symm.trans (ofReadings_of_values hvalue)
    exact shows_ofPairs hvalue
  error _ := exists_of_ofReadings_eq_error

end Record

/-! ### Results -/

/-- What the rows of a result come to: all their records in order, or an error. -/
structure ReadsAll {ρ : Type} (rows : List ρ) (columns : ρ → Columns ε)
    (result : Except DriverError RawOutput) : Prop where
  ok_iff : (∃ raw, result = .ok raw) ↔ ∀ row ∈ rows, (columns row).Readable
  rows : ∀ raw, result = .ok raw →
    List.Forall₂ (fun row r => Record.Shows (columns row) r) rows raw.rows

/-- Rows that are each read or refused as a row are read or refused together. -/
theorem readsAll {ρ : Type} (rows : List ρ) {columns : ρ → Columns ε}
    {decode : ρ → Except ε Record} (hdecode : ∀ row, ReadsRow (columns row) (decode row))
    (message : ε → String) : ReadsAll rows columns (RawOutput.ofRows decode message rows) := by
  have hall : (∃ rs, rows.mapM decode = .ok rs) ↔ ∀ row ∈ rows, (columns row).Readable :=
    Except.exists_mapM_eq_ok_iff.trans (forall₂_congr fun row _ => (hdecode row).ok_iff)
  rw [RawOutput.ofRows]
  cases hrows : rows.mapM decode with
  | error e =>
    rw [hrows] at hall
    refine ⟨?_, ?_⟩
    · rw [← hall]
      simp
    · rintro raw ⟨⟩
  | ok rs =>
    rw [hrows] at hall
    refine ⟨?_, ?_⟩
    · rw [← hall]
      simp
    · rintro raw ⟨⟩
      refine (Except.mapM_eq_ok_iff.1 hrows).imp ?_
      intro row r hr
      exact (hdecode row).record r hr

end Rows

end FluentSql
