import FluentSql.Record
import Mathlib.Data.List.Induction
import Mathlib.Data.List.Perm.Subperm

/-! Records made of pairs. A name stands where it came first, under the value that came last,
`keys_ofPairs` and `get?_ofPairs`. -/

namespace FluentSql

namespace Record

variable {k : String} {v : Value} {es pairs : List (String × Value)}

theorem put_of_notMem (h : k ∉ es.map Prod.fst) : put k v es = es ++ [(k, v)] := by
  induction es with
  | nil => rfl
  | cons e es ih =>
    obtain ⟨l, w⟩ := e
    obtain ⟨hk, hes⟩ := List.ne_and_not_mem_of_not_mem_cons h
    rw [put, if_neg (Ne.symm hk), ih hes, List.cons_append]

theorem keys_put_of_mem (h : k ∈ es.map Prod.fst) :
    (put k v es).map Prod.fst = es.map Prod.fst := by
  induction es with
  | nil => cases h
  | cons e es ih =>
    obtain ⟨l, w⟩ := e
    by_cases hl : l = k
    · rw [put, if_pos hl, List.map_cons, List.map_cons, hl]
    · have hes : k ∈ es.map Prod.fst := (List.mem_cons.1 h).resolve_left (Ne.symm hl)
      rw [put, if_neg hl, List.map_cons, List.map_cons, ih hes]

theorem lookup_put (k l : String) (v : Value) (es : List (String × Value)) :
    (put k v es).lookup l = if l = k then some v else es.lookup l := by
  induction es with
  | nil =>
    rw [put, List.lookup_cons]
    by_cases hl : l = k
    · simp [hl]
    · simp [hl, beq_eq_false_iff_ne.2 hl]
  | cons e es ih =>
    obtain ⟨m, w⟩ := e
    by_cases hm : m = k
    · rw [put, if_pos hm, List.lookup_cons, List.lookup_cons, hm]
      by_cases hl : l = k
      · simp [hl]
      · simp [hl, beq_eq_false_iff_ne.2 hl]
    · rw [put, if_neg hm, List.lookup_cons, List.lookup_cons, ih]
      by_cases hl : l = m
      · simp [hl, hm]
      · simp [beq_eq_false_iff_ne.2 hl]

theorem ofPairs_concat (pairs : List (String × Value)) (k : String) (v : Value) :
    ofPairs (pairs ++ [(k, v)]) = (ofPairs pairs).insert k v := by
  rw [ofPairs, List.foldl_append]
  rfl

/-- The names in the order in which they come first. -/
theorem keys_ofPairs (pairs : List (String × Value)) :
    (ofPairs pairs).keys = (pairs.map Prod.fst).eraseDups := by
  induction pairs using List.reverseRecOn with
  | nil => rfl
  | append_singleton pairs e ih =>
    obtain ⟨k, v⟩ := e
    have hinsert : (ofPairs (pairs ++ [(k, v)])).keys =
        (put k v (ofPairs pairs).entries).map Prod.fst := congrArg keys (ofPairs_concat pairs k v)
    rw [hinsert, List.map_append, List.eraseDups_append, ← ih]
    -- The last pair changes the value of a name that is there, or adds its name behind the others.
    by_cases hk : k ∈ pairs.map Prod.fst
    · have hkey : k ∈ (ofPairs pairs).entries.map Prod.fst := by
        rwa [← keys, ih, List.mem_eraseDups]
      have hnone : ([(k, v)].map Prod.fst).removeAll (pairs.map Prod.fst) = [] := by
        simp [List.removeAll, hk]
      rw [keys_put_of_mem hkey, hnone, List.eraseDups_nil, List.append_nil, keys]
    · have hkey : k ∉ (ofPairs pairs).entries.map Prod.fst := by
        rwa [← keys, ih, List.mem_eraseDups]
      have hone : ([(k, v)].map Prod.fst).removeAll (pairs.map Prod.fst) = [k] := by
        simp [List.removeAll, hk]
      rw [put_of_notMem hkey, hone, List.map_append, ← keys]
      rfl

/-- The value that comes last. -/
theorem get?_ofPairs (pairs : List (String × Value)) (k : String) :
    (ofPairs pairs).get? k = pairs.reverse.lookup k := by
  induction pairs using List.reverseRecOn with
  | nil => rfl
  | append_singleton pairs e ih =>
    obtain ⟨l, v⟩ := e
    have hinsert : (ofPairs (pairs ++ [(l, v)])).get? k =
        (put l v (ofPairs pairs).entries).lookup k :=
      congrArg (fun r => r.get? k) (ofPairs_concat pairs l v)
    rw [hinsert, lookup_put, ← get?, ih, List.reverse_append, List.reverse_singleton,
      List.singleton_append, List.lookup_cons]
    by_cases hk : k = l
    · simp [hk]
    · simp [hk, beq_eq_false_iff_ne.2 hk]

/-- Where no name repeats, the record has the pairs. -/
theorem entries_ofPairs (h : (pairs.map Prod.fst).Nodup) : (ofPairs pairs).entries = pairs := by
  induction pairs using List.reverseRecOn with
  | nil => rfl
  | append_singleton pairs e ih =>
    obtain ⟨k, v⟩ := e
    rw [List.map_append, List.nodup_append] at h
    obtain ⟨hpairs, -, hne⟩ := h
    have hentries := ih hpairs
    have hk : k ∉ (ofPairs pairs).entries.map Prod.fst := by
      rw [hentries]
      intro hmem
      exact hne k hmem k (List.mem_singleton_self k) rfl
    have hinsert : ((ofPairs pairs).insert k v).entries = put k v (ofPairs pairs).entries := rfl
    rw [ofPairs_concat, hinsert, put_of_notMem hk, hentries]

/-- A name that repeats takes an entry away. -/
theorem size_ofPairs_iff (pairs : List (String × Value)) :
    (ofPairs pairs).size = pairs.length ↔ (pairs.map Prod.fst).Nodup := by
  constructor
  · intro h
    have hlength : (pairs.map Prod.fst).length = (ofPairs pairs).keys.length := by
      rw [List.length_map, ← h, keys, List.length_map, size]
    have hsubset : (ofPairs pairs).keys ⊆ pairs.map Prod.fst := by
      intro k hk
      rwa [keys_ofPairs, List.mem_eraseDups] at hk
    have hperm : (ofPairs pairs).keys.Perm (pairs.map Prod.fst) :=
      (List.subperm_of_subset (ofPairs pairs).nodup hsubset).perm_of_length_le
        (Nat.le_of_eq hlength)
    exact hperm.nodup_iff.1 (ofPairs pairs).nodup
  · intro h
    rw [size, entries_ofPairs h]

/-- The last value under a name is the one that counts. -/
theorem get?_ofPairs_last {before after : List (String × Value)} {k : String} {v : Value}
    (h : k ∉ after.map Prod.fst) : (ofPairs (before ++ (k, v) :: after)).get? k = some v := by
  rw [get?_ofPairs, List.reverse_append, List.reverse_cons, List.append_assoc]
  have hafter : after.reverse.lookup k = none := by
    rw [List.lookup_eq_none_iff]
    intro e he
    have hne : k ≠ e.1 := by
      rintro rfl
      exact h (List.mem_map_of_mem (List.mem_reverse.1 he))
    simpa using hne
  rw [List.lookup_append, hafter]
  simp

/-- A pair counts if no pair behind it has its name. -/
theorem get?_ofPairs_at {i : Nat} (hi : i < pairs.length)
    (h : ∀ j, ∀ hj : j < pairs.length, i < j → pairs[j].1 ≠ pairs[i].1) :
    (ofPairs pairs).get? pairs[i].1 = some pairs[i].2 := by
  have hsplit : pairs.take i ++ (pairs[i].1, pairs[i].2) :: pairs.drop (i + 1) = pairs := by
    have hpair : (pairs[i].1, pairs[i].2) = pairs[i] := rfl
    rw [hpair, ← List.drop_eq_getElem_cons hi, List.take_append_drop]
  have hafter : pairs[i].1 ∉ (pairs.drop (i + 1)).map Prod.fst := by
    intro hmem
    obtain ⟨p, hp, hname⟩ := List.mem_map.1 hmem
    obtain ⟨k, hk, rfl⟩ := List.mem_drop_iff_getElem.1 hp
    exact h (i + 1 + k) (by omega) (by omega) hname
  have hlast : (ofPairs (pairs.take i ++ (pairs[i].1, pairs[i].2) :: pairs.drop (i + 1))).get?
      pairs[i].1 = some pairs[i].2 := get?_ofPairs_last hafter
  rwa [hsplit] at hlast

end Record

end FluentSql
