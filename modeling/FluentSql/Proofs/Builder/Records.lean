import FluentSql.Query.Builder
import Mathlib.Data.List.Perm.Subperm
import Mathlib.Data.Set.List

/-! Inserting many records at once. The records have to be alike, that is to have the same names in
whatever order; what is checked is that they are as many as the columns and that no column is
missing, which comes to the same because the names of a record are distinct. The values of alike
records lie one record after the other in the order of the columns, `Insert.Holds`, and each record
can be cut out again. -/

namespace FluentSql

/-! ### Records that are alike -/

namespace Record

/-- The same names, in whatever order. -/
def SameKeys (r s : Record) : Prop :=
  ∀ k, k ∈ r.keys ↔ k ∈ s.keys

/-- At least one record, and all with the names of the first. -/
def Alike (records : List Record) : Prop :=
  ∃ first, records.head? = some first ∧ ∀ r ∈ records, r.SameKeys first

theorem get?_eq_none_iff {r : Record} {k : String} : r.get? k = none ↔ k ∉ r.keys := by
  rw [get?, List.lookup_eq_none_iff, keys, List.mem_map]
  constructor
  · rintro h ⟨e, he, rfl⟩
    simpa using h e he
  · intro h e he
    exact bne_iff_ne.2 fun hk => h ⟨e, he, hk.symm⟩

theorem get?_of_mem {r : Record} {e : String × Value} (he : e ∈ r.entries) :
    r.get? e.1 = some e.2 := by
  obtain ⟨before, after, h⟩ := List.append_of_mem he
  have hn := r.nodup
  rw [h, List.map_append, List.map_cons, List.nodup_append] at hn
  rw [get?, List.lookup_eq_some_iff]
  refine ⟨before, after, h, fun d hd => bne_iff_ne.2 fun hk => ?_⟩
  exact hn.2.2 d.1 (List.mem_map_of_mem hd) e.1 List.mem_cons_self hk.symm

theorem length_keys (r : Record) : r.keys.length = r.size :=
  List.length_map _

/-- A record has the names of another if it has all of them and no more names than that one: names
do not repeat, so that there is no room for others. -/
theorem sameKeys_iff {r s : Record} :
    r.SameKeys s ↔ r.size = s.size ∧ ∀ k ∈ s.keys, k ∈ r.keys := by
  rw [← length_keys, ← length_keys]
  constructor
  · intro h
    have hp : r.keys.Perm s.keys := (List.perm_ext_iff_of_nodup r.nodup s.nodup).2 h
    exact ⟨hp.length_eq, fun k hk => (h k).2 hk⟩
  · rintro ⟨hl, hs⟩ k
    have hp : s.keys.Perm r.keys := (List.subperm_of_subset s.nodup hs).perm_of_length_le hl.le
    exact hp.mem_iff.symm

end Record

namespace Insert

/-! ### Gathering the values -/

theorem bind_eq_ok_iff {ε α β : Type} {x : Except ε α} {f : α → Except ε β} {b : β} :
    x >>= f = .ok b ↔ ∃ a, x = .ok a ∧ f a = .ok b := by
  cases x <;> simp [bind, Except.bind]

/-- The values of a record are what it has under the columns, and it has to have all of them. -/
theorem valuesOf_eq_ok_iff {index : Nat} {r : Record} {columns : List String} {vs : List Value} :
    valuesOf index r columns = .ok vs ↔ vs.map some = columns.map r.get? := by
  induction columns generalizing vs with
  | nil => simp [valuesOf, @eq_comm _ [] vs]
  | cons c cs ih =>
    rw [valuesOf, List.map_cons, List.map_eq_cons_iff]
    cases r.get? c with
    | none => simp
    | some v =>
      rw [bind_eq_ok_iff]
      constructor
      · rintro ⟨ws, hws, h⟩
        cases h
        exact ⟨v, ws, rfl, rfl, ih.1 hws⟩
      · rintro ⟨w, ws, rfl, hw, hws⟩
        cases hw
        exact ⟨ws, ih.2 hws, rfl⟩

/-- The values of records are those of each record in turn, and all have to be as many as the
columns. -/
theorem valuesOfAll_eq_ok_iff {columns : List String} {index : Nat} {records : List Record}
    {vs : List Value} :
    valuesOfAll columns index records = .ok vs ↔
      (∀ r ∈ records, r.size = columns.length) ∧
        vs.map some = records.flatMap fun r => columns.map r.get? := by
  induction records generalizing index vs with
  | nil => simp [valuesOfAll, @eq_comm _ [] vs]
  | cons r rs ih =>
    rw [valuesOfAll, List.flatMap_cons, List.map_eq_append_iff, List.forall_mem_cons]
    by_cases hr : r.size = columns.length
    · rw [if_neg (not_not.2 hr)]
      simp only [bind_eq_ok_iff, valuesOf_eq_ok_iff, ih]
      constructor
      · rintro ⟨us, hus, ws, ⟨hs, hws⟩, h⟩
        cases h
        exact ⟨⟨hr, hs⟩, us, ws, rfl, hus, hws⟩
      · rintro ⟨⟨-, hs⟩, us, ws, rfl, hus, hws⟩
        exact ⟨us, hus, ws, ⟨hs, hws⟩, rfl⟩
    · rw [if_pos hr]
      simp [hr, throw, throwThe, MonadExceptOf.throw, bind, Except.bind]

theorem ofRecords_eq_ok_iff {r : Record} {rs : List Record} {i : Insert} :
    ofRecords (r :: rs) = .ok i ↔
      i.columns = r.keys ∧ (∀ s ∈ r :: rs, s.size = r.size) ∧
        i.values.map some = (r :: rs).flatMap fun s => i.columns.map s.get? := by
  rw [ofRecords, bind_eq_ok_iff]
  simp only [valuesOfAll_eq_ok_iff, Record.length_keys]
  constructor
  · rintro ⟨vs, ⟨hs, hvs⟩, h⟩
    cases h
    exact ⟨rfl, hs, hvs⟩
  · obtain ⟨columns, values⟩ := i
    rintro ⟨rfl, hs, hvs⟩
    exact ⟨values, ⟨hs, hvs⟩, rfl⟩

/-- Alike records, and no others, can be inserted at once. -/
theorem ofRecords_ok_iff_alike {records : List Record} :
    (∃ i, ofRecords records = .ok i) ↔ Record.Alike records := by
  cases records with
  | nil => simp [ofRecords, Record.Alike]
  | cons r rs =>
    simp only [ofRecords_eq_ok_iff, Record.Alike, List.head?_cons, Option.some.injEq,
      exists_eq_left', Record.sameKeys_iff]
    constructor
    · rintro ⟨i, hi, hs, hvs⟩ s hm
      refine ⟨hs s hm, fun k hk => ?_⟩
      -- what is missing under a column would be among the values
      by_contra hn
      have hv : none ∈ i.values.map some := by
        rw [hvs, List.mem_flatMap]
        exact ⟨s, hm, List.mem_map.2 ⟨k, hi ▸ hk, Record.get?_eq_none_iff.2 hn⟩⟩
      simp at hv
    · intro h
      have hv : ((r :: rs).flatMap fun s => r.keys.map s.get?) ∈ Set.range (List.map some) := by
        rw [Set.range_list_map]
        intro x hx
        obtain ⟨s, hm, hx⟩ := List.mem_flatMap.1 hx
        obtain ⟨k, hk, rfl⟩ := List.mem_map.1 hx
        have hne : s.get? k ≠ none := fun hn => Record.get?_eq_none_iff.1 hn ((h s hm).2 k hk)
        obtain ⟨v, hv⟩ := Option.ne_none_iff_exists.1 hne
        exact ⟨v, hv⟩
      obtain ⟨vs, hvs⟩ := hv
      exact ⟨⟨r.keys, vs⟩, rfl, fun s hm => (h s hm).1, hvs⟩

/-! ### Cutting the records out again -/

/-- The values of one record. -/
def row (i : Insert) (n : Nat) : List Value :=
  (i.values.drop (n * i.columns.length)).take i.columns.length

/-- The values of records lie one record after the other, in the order of the first one's names. -/
structure Holds (i : Insert) (records : List Record) : Prop where
  columns : records.head?.map Record.keys = some i.columns
  length_values : i.values.length = records.length * i.columns.length
  cell : ∀ n (hn : n < records.length) j (hj : j < i.columns.length),
    i.values[n * i.columns.length + j]? = records[n].get? i.columns[j]
  record : ∀ n (hn : n < records.length) k,
    (i.columns.zip (i.row n)).lookup k = records[n].get? k

/-- Parts of one length are found again. -/
theorem take_drop_flatMap {β γ : Type} {f : β → List γ} {width n : Nat} {xs : List β}
    (hf : ∀ x, (f x).length = width) (hn : n < xs.length) :
    ((xs.flatMap f).drop (n * width)).take width = f xs[n] := by
  induction xs generalizing n with
  | nil => exact absurd hn (Nat.not_lt_zero n)
  | cons x xs ih =>
    cases n with
    | zero => simp [List.take_left' (hf x)]
    | succ n =>
      rw [Nat.succ_mul, Nat.add_comm, ← List.drop_drop, List.flatMap_cons, List.drop_left' (hf x)]
      exact ih (Nat.lt_of_succ_lt_succ hn)

theorem lookup_zip_map {f : String → Option Value} {columns : List String} {vs : List Value}
    (h : vs.map some = columns.map f) (k : String) :
    (columns.zip vs).lookup k = if k ∈ columns then f k else none := by
  induction columns generalizing vs with
  | nil => rfl
  | cons c cs ih =>
    rw [List.map_cons, List.map_eq_cons_iff] at h
    obtain ⟨v, vs, rfl, hv, hvs⟩ := h
    rw [List.zip_cons_cons, List.lookup_cons, ih hvs]
    by_cases hk : k = c
    · subst hk
      simp [hv]
    · simp [hk, beq_eq_false_iff_ne.2 hk]

theorem holds_of_ofRecords {records : List Record} {i : Insert} (h : ofRecords records = .ok i) :
    i.Holds records := by
  obtain ⟨first, hf, hs⟩ := ofRecords_ok_iff_alike.1 ⟨i, h⟩
  cases records with
  | nil => cases hf
  | cons r rs =>
    obtain rfl : r = first := Option.some.inj hf
    obtain ⟨hc, -, hv⟩ := ofRecords_eq_ok_iff.1 h
    have hw (s : Record) : (i.columns.map s.get?).length = i.columns.length := List.length_map _
    have hrow {n : Nat} (hn : n < (r :: rs).length) :
        (i.row n).map some = i.columns.map (r :: rs)[n].get? := by
      rw [row, List.map_take, List.map_drop, hv, take_drop_flatMap hw hn]
    refine ⟨congrArg some hc.symm, ?_, fun n hn j hj => ?_, fun n hn k => ?_⟩
    · rw [← List.length_map some, hv, List.length_flatMap]
      simp only [hw, List.map_const', List.sum_replicate_nat]
    · have hcell : (i.values[n * i.columns.length + j]?).map some =
          some ((r :: rs)[n].get? i.columns[j]) := by
        rw [← List.getElem?_drop, ← List.getElem?_take_of_lt hj, ← row, ← List.getElem?_map,
          hrow hn, List.getElem?_map, List.getElem?_eq_getElem hj]
        rfl
      obtain ⟨v, hv, hg⟩ := Option.map_eq_some_iff.1 hcell
      exact hv.trans hg
    · rw [lookup_zip_map (hrow hn)]
      split
      next => rfl
      next hk =>
        symm
        rw [Record.get?_eq_none_iff, hs _ (List.getElem_mem hn) k, ← hc]
        exact hk

/-- One record is inserted as the row of its pairs. -/
theorem ofRecords_singleton (r : Record) : ofRecords [r] = .ok (ofPairs r.entries) := by
  have hv : r.entries.map (fun e => some e.2) = r.entries.map fun e => r.get? e.1 :=
    List.map_congr_left fun e he => (Record.get?_of_mem he).symm
  simpa [ofRecords_eq_ok_iff, ofPairs, Record.keys] using hv

end Insert

/-! ### The call -/

/-- Many records are inserted at once exactly if they are alike. Then the query is an insert on the
same table that holds them; otherwise it stays as it is, and the caller is told that they are not
valid. One record alone is inserted as by a call of its own. -/
theorem call_insertMany_ok_iff_alike (q : QueryState) (records : List Record) :
    let c := q.call (.insertMany records)
    (c.result = .ok () ↔ Record.Alike records) ∧
      ((∃ i : Insert, c.state = ⟨q.table, .insert i⟩ ∧ i.Holds records) ∧ c.result = .ok () ∨
        c.state = q ∧ ∃ m, c.result = .error (.validation m)) ∧
      ∀ r : Record, q.call (.insertMany [r]) = q.call (.insert r.entries) := by
  have single (r : Record) : q.call (.insertMany [r]) = q.call (.insert r.entries) := by
    simp only [QueryState.call, Insert.ofRecords_singleton]
  cases h : Insert.ofRecords records with
  | ok i =>
    have hc : q.call (.insertMany records) = ⟨q.restart (.insert i), none, none⟩ := by
      simp only [QueryState.call, h]
    rw [hc]
    exact ⟨iff_of_true rfl (Insert.ofRecords_ok_iff_alike.1 ⟨i, h⟩),
      .inl ⟨⟨i, rfl, Insert.holds_of_ofRecords h⟩, rfl⟩, single⟩
  | error e =>
    have hc : q.call (.insertMany records) = ⟨q, none, some e⟩ := by
      simp only [QueryState.call, h]
    rw [hc]
    refine ⟨iff_of_false (by simp [CallResult.result]) fun ha => ?_, .inr ⟨rfl, _, rfl⟩, single⟩
    obtain ⟨i, hi⟩ := Insert.ofRecords_ok_iff_alike.2 ha
    rw [h] at hi
    cases hi

end FluentSql
