import FluentSql.Proofs.Query.Scan
import FluentSql.Proofs.Query.Writer

/-! The identifiers of a query, and texts without signs of placeholders. The words and marks of the
language hold no sign, so that those in a query written down without its values come from its
identifiers, `Writer.signless_query`. -/

namespace FluentSql

/-- The identifiers of a statement, in the order in which it is written. -/
def Statement.identifiers : Statement → List String
  | .select s =>
    s.columns ++ s.joins.flatMap (fun j => [j.table, j.left, j.right]) ++
      s.conditions.map Condition.column ++ s.groupBy ++ s.having.map Condition.column ++
      s.orderBy.map SortTerm.column
  | .insert i => i.columns
  | .update u => u.payload.keys ++ u.conditions.map Condition.column
  | .delete d => d.conditions.map Condition.column

def QueryState.identifiers (q : QueryState) : List String :=
  q.table :: q.statement.identifiers

/-- Neither sign of a placeholder occurs. -/
def Signless (cs : List Char) : Prop :=
  '?' ∉ cs ∧ '$' ∉ cs

instance (cs : List Char) : Decidable (Signless cs) :=
  inferInstanceAs (Decidable (_ ∧ _))

namespace Signless

variable {β : Type}

theorem sign {cs : List Char} (h : Signless cs) (p : Placeholder) : p.sign ∉ cs := by
  cases p with
  | question => exact h.1
  | dollar => exact h.2

@[simp] theorem append_iff {cs ds : List Char} :
    Signless (cs ++ ds) ↔ Signless cs ∧ Signless ds := by
  simp only [Signless, List.mem_append, not_or]
  exact and_and_and_comm

theorem nil : Signless [] := by decide

theorem flatMap {f : β → List Char} {xs : List β} (h : ∀ x ∈ xs, Signless (f x)) :
    Signless (xs.flatMap f) := by
  induction xs with
  | nil => exact nil
  | cons x xs ih =>
    rw [List.flatMap_cons, append_iff]
    exact ⟨h x (by simp), ih fun y hy => h y (by simp [hy])⟩

theorem commas {parts : List (List Char)} (h : ∀ cs ∈ parts, Signless cs) :
    Signless (parts.intersperse [',', ' ']).flatten := by
  induction parts with
  | nil => exact nil
  | cons cs css ih =>
    cases css with
    | nil => simpa using h cs (by simp)
    | cons ds dss =>
      simp only [List.intersperse_cons_cons, List.flatten_cons, append_iff]
      exact ⟨h cs (by simp), by decide, ih fun es he => h es (by simp [he])⟩

theorem intercalate {ss : List String} (h : ∀ s ∈ ss, Signless s.toList) :
    Signless (String.intercalate ", " ss).toList := by
  rw [String.toList_intercalate]
  exact commas (by simpa using h)

theorem toString (n : Nat) : Signless (toString n).toList := by
  have h (c : Char) (hc : c ∈ Nat.toDigits 10 n) : c.isDigit = true :=
    Nat.isDigit_of_mem_toDigits (by decide) (by decide) hc
  rw [Nat.toString_eq_repr, Nat.repr, String.toList_ofList]
  exact ⟨fun hm => absurd (h _ hm) (by decide), fun hm => absurd (h _ hm) (by decide)⟩

theorem operator (o : Operator) : Signless o.sql.toList := by
  cases o <;> decide

theorem combinator (c : Combinator) : Signless c.sql.toList := by
  cases c <;> decide

end Signless

namespace Writer

/-- Texts as they are, and nothing for a value. -/
def bare : Writer Char :=
  literal fun _ => ""

theorem signless_text {s : String} (h : Signless s.toList) : Signless (bare.text s) := h

theorem signless_commas {parts : List (List Char)} (h : ∀ cs ∈ parts, Signless cs) :
    Signless (bare.commas parts) :=
  .commas h

theorem signless_value (v : Value) : Signless (bare.value v) := .nil

theorem signless_members (v : Value) : Signless (bare.members v) := by
  cases v with
  | list items =>
    cases items with
    | nil => decide
    | cons v vs => exact signless_commas (by simp [signless_value])
  | _ => exact .nil

theorem signless_operand (o : Operator) (v : Value) : Signless (bare.operand o v) := by
  have enclosed : Signless (bare.text " (" ++ bare.members v ++ bare.text ")") :=
    Signless.append_iff.2 ⟨Signless.append_iff.2 ⟨by decide, signless_members v⟩, by decide⟩
  have plain (w : Value) : Signless (bare.text " " ++ bare.value w) :=
    Signless.append_iff.2 ⟨by decide, signless_value w⟩
  fun_cases operand bare o v with
  | case1 => exact enclosed
  | case2 => exact enclosed
  | case3 low high =>
    exact Signless.append_iff.2
      ⟨Signless.append_iff.2 ⟨plain low, by decide⟩, signless_value high⟩
  | case4 => exact plain v

theorem signless_condition {c : Condition} (h : Signless c.column.toList) :
    Signless (bare.condition c) := by
  have head : Signless (bare.text (c.column ++ " " ++ c.operator.sql)) := by
    refine signless_text ?_
    simp only [String.toList_append, Signless.append_iff]
    exact ⟨⟨h, by decide⟩, .operator _⟩
  refine Signless.append_iff.2 ⟨head, ?_⟩
  split
  · exact .nil
  · cases c.value with
    | none => exact .nil
    | some v => exact signless_operand c.operator v

theorem signless_conditions {keyword : String} {cs : List Condition}
    (hk : Signless keyword.toList) (h : ∀ c ∈ cs, Signless c.column.toList) :
    Signless (bare.conditions keyword cs) := by
  have lead {s : String} (hs : Signless s.toList) : Signless (bare.text (" " ++ s ++ " ")) := by
    refine signless_text ?_
    simp only [String.toList_append, Signless.append_iff]
    exact ⟨⟨by decide, hs⟩, by decide⟩
  cases cs with
  | nil => exact .nil
  | cons c cs =>
    rw [conditions, Signless.append_iff, Signless.append_iff]
    refine ⟨⟨lead hk, signless_condition (h c (by simp))⟩, .flatMap fun d hd => ?_⟩
    exact Signless.append_iff.2 ⟨lead (.combinator _), signless_condition (h d (by simp [hd]))⟩

theorem signless_joinClause {j : Join} (ht : Signless j.table.toList)
    (hl : Signless j.left.toList) (hr : Signless j.right.toList) :
    Signless (bare.joinClause j) := by
  have kind : Signless j.kind.sql.toList := by cases j.kind <;> decide
  refine signless_text ?_
  simp only [String.toList_append, Signless.append_iff, toString]
  exact ⟨⟨⟨⟨⟨⟨⟨⟨⟨by decide, kind⟩, by decide⟩, ht⟩, by decide⟩, hl⟩, by decide⟩, .operator _⟩,
    by decide⟩, hr⟩

theorem signless_listClause {keyword : String} {terms : List String}
    (hk : Signless keyword.toList) (h : ∀ s ∈ terms, Signless s.toList) :
    Signless (bare.listClause keyword terms) := by
  unfold listClause
  split
  · exact .nil
  · refine signless_text ?_
    simp only [String.toList_append, Signless.append_iff]
    exact ⟨⟨⟨by decide, hk⟩, by decide⟩, .intercalate h⟩

theorem signless_numberClause {keyword : String} (hk : Signless keyword.toList)
    (n : Option UInt64) : Signless (bare.numberClause keyword n) := by
  cases n with
  | none => exact .nil
  | some n =>
    refine signless_text ?_
    simp only [String.toList_append, Signless.append_iff]
    exact ⟨⟨⟨by decide, hk⟩, by decide⟩, .toString _⟩

theorem signless_rows (rs : List (List Value)) : Signless (bare.commas (rs.map bare.row)) := by
  refine signless_commas fun cs hcs => ?_
  obtain ⟨vs, -, rfl⟩ := List.mem_map.1 hcs
  have cells : Signless (bare.commas (vs.map bare.value)) :=
    signless_commas (by simp [signless_value])
  exact Signless.append_iff.2 ⟨Signless.append_iff.2 ⟨by decide, cells⟩, by decide⟩

/-- Signs in a query that was written down without its values come from its identifiers. -/
theorem signless_query {q : QueryState} (h : ∀ s ∈ q.identifiers, Signless s.toList) :
    Signless (bare.query q) := by
  have ht : Signless q.table.toList := h _ (by simp [QueryState.identifiers])
  replace h : ∀ s ∈ q.statement.identifiers, Signless s.toList := fun s hs =>
    h s (by simp [QueryState.identifiers, hs])
  unfold query
  cases hq : q.statement with
  | select s =>
    simp only [hq, Statement.identifiers, List.mem_append, List.mem_flatMap, List.mem_map] at h
    simp only [select, Signless.append_iff]
    refine ⟨⟨⟨⟨⟨⟨⟨signless_text ?_, .flatMap fun j hj => ?_⟩, ?_⟩, ?_⟩, ?_⟩, ?_⟩, ?_⟩, ?_⟩
    · simp only [String.toList_append, Signless.append_iff]
      exact ⟨⟨⟨by decide, .intercalate fun s hs => h s (by simp [hs])⟩, by decide⟩, ht⟩
    · have hj (s : String) (hs : s ∈ [j.table, j.left, j.right]) := h s (by grind)
      exact signless_joinClause (hj _ (by simp)) (hj _ (by simp)) (hj _ (by simp))
    · exact signless_conditions (by decide) fun c hc => h _ (by grind)
    · exact signless_listClause (by decide) fun s hs => h s (by simp [hs])
    · exact signless_conditions (by decide) fun c hc => h _ (by grind)
    · refine signless_listClause (by decide) fun s hs => ?_
      obtain ⟨t, hm, rfl⟩ := List.mem_map.1 hs
      simp only [String.toList_append, Signless.append_iff]
      exact ⟨⟨h _ (by grind), by decide⟩, by cases t.direction <;> decide⟩
    · exact signless_numberClause (by decide) _
    · exact signless_numberClause (by decide) _
  | insert i =>
    rw [hq] at h
    refine Signless.append_iff.2 ⟨signless_text ?_, signless_rows _⟩
    simp only [String.toList_append, Signless.append_iff]
    exact ⟨⟨⟨⟨by decide, ht⟩, by decide⟩, .intercalate h⟩, by decide⟩
  | update u =>
    simp only [hq, Statement.identifiers, List.mem_append, List.mem_map] at h
    simp only [update, Signless.append_iff]
    refine ⟨⟨signless_text ?_, signless_commas fun cs hcs => ?_⟩, ?_⟩
    · simp only [String.toList_append, Signless.append_iff, toString]
      exact ⟨⟨by decide, ht⟩, by decide⟩
    · obtain ⟨e, he, rfl⟩ := List.mem_map.1 hcs
      refine Signless.append_iff.2 ⟨signless_text ?_, signless_value _⟩
      simp only [String.toList_append, Signless.append_iff]
      exact ⟨h _ (.inl (List.mem_map_of_mem he)), by decide⟩
    · exact signless_conditions (by decide) fun c hc => h _ (by grind)
  | delete d =>
    simp only [hq, Statement.identifiers, List.mem_map] at h
    refine Signless.append_iff.2 ⟨signless_text ?_,
      signless_conditions (by decide) fun c hc => h _ ⟨c, hc, rfl⟩⟩
    simp only [String.toList_append, Signless.append_iff]
    exact ⟨by decide, ht⟩

end Writer

end FluentSql
