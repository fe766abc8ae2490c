import FluentSql.Query.Compile

/-! Why a query is refused. A refusal tells of one part of the query that has no form in SQL: it is
found in the query as the refusal names it, and for the cause that the refusal gives,
`QueryState.blames_of_compile`. Parts are compiled one after the other, so that a refusal of the
whole is the refusal of one of them, and comes from there. -/

namespace FluentSql

/-! ### Causes -/

/-- A list stands as an operand, or in one, where none can be. -/
def Operator.Misplaces : Operator → Value → Prop
  | .isIn, v | .notIn, v => ∃ items, v = .list items ∧ ∃ item ∈ items, item.isList = true
  | .between, v => ∃ low high, v = .list [low, high] ∧ (low.isList = true ∨ high.isList = true)
  | _, v => v.isList = true

namespace Statement

/-- The conditions of a statement, in whichever clause. -/
def tests : Statement → List Condition
  | .select s => s.conditions ++ s.having
  | .insert _ => []
  | .update u => u.conditions
  | .delete d => d.conditions

/-- The values that a statement writes. -/
def written : Statement → List Value
  | .insert i => i.values
  | .update u => u.payload.entries.map Prod.snd
  | .select _ | .delete _ => []

/-- A refusal tells of a part of the statement, and its cause is there. -/
inductive Blames : Statement → CompileError → Prop where
  | joinOperator {s : Select} {j : Join} : j ∈ s.joins → j.operator.isComparison = false →
      Blames (.select s) (.joinOperator j.operator j.table j.left)
  | emptyInsert {i : Insert} : i.values = [] → Blames (.insert i) .emptyInsert
  | raggedInsert {i : Insert} : i.values ≠ [] → i.recordCount? = none →
      Blames (.insert i) (.raggedInsert i.values.length i.columns.length)
  | emptyUpdate {u : Update} : u.payload.entries = [] → Blames (.update u) .emptyUpdate
  | missingValue {s : Statement} {c : Condition} : c ∈ s.tests → c.operator.isUnary = false →
      c.value = none → Blames s (.missingValue c.operator c.column)
  | betweenOperand {s : Statement} {c : Condition} {v : Value} : c ∈ s.tests →
      c.operator = .between → c.value = some v → (¬ ∃ low high, v = .list [low, high]) →
      Blames s (.betweenOperand c.column v.kindName)
  | misplacedOperand {s : Statement} {c : Condition} {v : Value} : c ∈ s.tests →
      c.operator.isUnary = false → c.value = some v → c.operator.Misplaces v →
      Blames s .misplacedList
  | misplacedValue {s : Statement} {v : Value} : v ∈ s.written → v.isList = true →
      Blames s .misplacedList

end Statement

/-- A refusal tells of the table, or of a part of the statement. -/
inductive QueryState.Blames (q : QueryState) : CompileError → Prop where
  | blankTable : Text.blank q.table = true → q.Blames .blankTable
  | statement {e : CompileError} : q.statement.Blames e → q.Blames e

/-! ### Parts that are refused -/

namespace Compile

variable {e : CompileError}

theorem text_ne_error (s : String) : text s ≠ .error e := by
  intro h
  cases h

/-- A refusal of parts is the refusal of one of them. -/
theorem join_eq_error {cs : List Compiled} (h : join cs = .error e) : .error e ∈ cs := by
  induction cs with
  | nil => cases h
  | cons c cs ih =>
    cases c with
    | error f =>
      cases h
      exact List.mem_cons_self
    | ok ps =>
      cases hcs : join cs with
      | error f =>
        simp only [join, hcs] at h
        cases h
        exact List.mem_cons_of_mem _ (ih hcs)
      | ok qs =>
        simp only [join, hcs] at h
        cases h

theorem mem_intersperse {α : Type} {a sep : α} {xs : List α} (h : a ∈ xs.intersperse sep) :
    a = sep ∨ a ∈ xs := by
  induction xs with
  | nil => exact .inr h
  | cons x xs ih =>
    cases xs with
    | nil => exact .inr h
    | cons y ys =>
      rcases List.mem_cons.1 h with rfl | h
      · exact .inr List.mem_cons_self
      rcases List.mem_cons.1 h with rfl | h
      · exact .inl rfl
      exact (ih h).imp_right (List.mem_cons_of_mem x)

theorem commas_eq_error {cs : List Compiled} (h : commas cs = .error e) : .error e ∈ cs := by
  rcases mem_intersperse (join_eq_error h) with ht | ht
  · exact absurd ht.symm (text_ne_error ", ")
  · exact ht

/-- The refusal of one of several like parts. -/
theorem exists_of_commas_eq_error {α : Type} {f : α → Compiled} {xs : List α}
    (h : commas (xs.map f) = .error e) : ∃ x ∈ xs, f x = .error e :=
  List.mem_map.1 (commas_eq_error h)

/-- What stands behind a text is what is refused. -/
theorem labelled_eq_error {c : Compiled} {label : String} (h : join [text label, c] = .error e) :
    c = .error e := by
  have hm := join_eq_error h
  simp only [List.mem_cons, List.not_mem_nil, or_false] at hm
  rcases hm with ht | hc
  · exact absurd ht.symm (text_ne_error label)
  · exact hc.symm

theorem enclosed_eq_error {c : Compiled} {left right : String}
    (h : join [text left, c, text right] = .error e) : c = .error e := by
  have hm := join_eq_error h
  simp only [List.mem_cons, List.not_mem_nil, or_false] at hm
  rcases hm with hl | hc | hr
  · exact absurd hl.symm (text_ne_error left)
  · exact hc.symm
  · exact absurd hr.symm (text_ne_error right)

theorem value_eq_error {v : Value} (h : value v = .error e) :
    e = .misplacedList ∧ v.isList = true := by
  cases v with
  | list items =>
    cases h
    exact ⟨rfl, rfl⟩
  | _ => cases h

/-! ### Conditions -/

theorem operand_eq_error {column : String} {o : Operator} {v : Value}
    (h : operand column o v = .error e) :
    e = .misplacedList ∧ o.Misplaces v ∨
      o = .between ∧ (¬ ∃ low high, v = .list [low, high]) ∧
        e = .betweenOperand column v.kindName := by
  have plain (h : join [text " ", value v] = .error e) :
      e = .misplacedList ∧ v.isList = true :=
    value_eq_error (labelled_eq_error h)
  have members (h : operand column .isIn v = .error e) :
      e = .misplacedList ∧ Operator.isIn.Misplaces v := by
    cases v with
    | list items =>
      cases items with
      | nil => cases h
      | cons x xs =>
        obtain ⟨y, hy, hv⟩ := exists_of_commas_eq_error (enclosed_eq_error h)
        obtain ⟨he, hl⟩ := value_eq_error hv
        exact ⟨he, _, rfl, y, hy, hl⟩
    | _ => cases h
  cases o with
  | isIn => exact .inl (members h)
  | notIn => exact .inl (members h)
  | between =>
    match v with
    | .list [low, high] =>
      have hm := join_eq_error h
      simp only [List.mem_cons, List.not_mem_nil, or_false] at hm
      rcases hm with ht | hl | ht | hh
      · exact absurd ht.symm (text_ne_error " ")
      · obtain ⟨he, hl⟩ := value_eq_error hl.symm
        exact .inl ⟨he, low, high, rfl, .inl hl⟩
      · exact absurd ht.symm (text_ne_error " AND ")
      · obtain ⟨he, hh⟩ := value_eq_error hh.symm
        exact .inl ⟨he, low, high, rfl, .inr hh⟩
    | .list [] | .list [_] | .list (_ :: _ :: _ :: _) | .null | .bool _ | .int _ | .float _ | .text _
    | .bytes _ =>
      refine .inr ⟨rfl, ?_, (Except.error.inj h).symm⟩
      rintro ⟨low, high, hv⟩
      cases hv
  | _ => exact .inl (plain h)

theorem condition_eq_error {c : Condition} (h : condition c = .error e) {s : Statement}
    (hc : c ∈ s.tests) : s.Blames e := by
  rw [condition] at h
  cases hu : c.operator.isUnary with
  | true =>
    rw [hu] at h
    exact absurd h (text_ne_error _)
  | false =>
    rw [hu, if_neg Bool.false_ne_true] at h
    have hv := labelled_eq_error h
    cases hcv : c.value with
    | none =>
      rw [hcv] at hv
      cases hv
      exact .missingValue hc hu hcv
    | some v =>
      rw [hcv] at hv
      rcases operand_eq_error hv with ⟨rfl, hl⟩ | ⟨ho, hb, rfl⟩
      · exact .misplacedOperand hc hu hcv hl
      · exact .betweenOperand hc ho hcv hb

/-- A clause of conditions is refused for one of them. -/
theorem conditions_eq_error {keyword : String} {cs : List Condition}
    (h : conditions keyword cs = .error e) {s : Statement} (hcs : ∀ c ∈ cs, c ∈ s.tests) :
    s.Blames e := by
  cases cs with
  | nil => cases h
  | cons c cs =>
    have hm := join_eq_error h
    simp only [List.mem_cons, List.mem_flatMap, List.not_mem_nil, or_false] at hm
    rcases hm with ht | hc | ⟨d, hd, ht | hd'⟩
    · exact absurd ht.symm (text_ne_error _)
    · exact condition_eq_error hc.symm (hcs c List.mem_cons_self)
    · exact absurd ht.symm (text_ne_error _)
    · exact condition_eq_error hd'.symm (hcs d (List.mem_cons_of_mem c hd))

/-! ### Statements -/

theorem joinClause_eq_error {j : Join} (h : joinClause j = .error e) :
    j.operator.isComparison = false ∧ e = .joinOperator j.operator j.table j.left := by
  rw [joinClause] at h
  split at h
  next => exact absurd h (text_ne_error _)
  next hc =>
    cases h
    exact ⟨Bool.eq_false_iff.2 hc, rfl⟩

theorem listClause_ne_error (keyword : String) (terms : List String) :
    listClause keyword terms ≠ .error e := by
  rw [listClause]
  split
  · exact fun h => by cases h
  · exact text_ne_error _

theorem numberClause_ne_error (keyword : String) (n : Option UInt64) :
    numberClause keyword n ≠ .error e := by
  cases n with
  | none => exact fun h => by cases h
  | some n => exact text_ne_error _

theorem select_eq_error {table : String} {s : Select} (h : select table s = .error e) :
    (Statement.select s).Blames e := by
  have hm := join_eq_error h
  simp only [List.mem_cons, List.not_mem_nil, or_false] at hm
  -- The clauses in their order; GROUP BY, ORDER BY, LIMIT and OFFSET are never refused.
  rcases hm with ht | hj | hw | hg | hh | ho | hl | hf
  · exact absurd ht.symm (text_ne_error _)
  · obtain ⟨j, hmem, he⟩ := List.mem_map.1 (join_eq_error hj.symm)
    obtain ⟨hc, rfl⟩ := joinClause_eq_error he
    exact .joinOperator hmem hc
  · exact conditions_eq_error hw.symm fun c hc => List.mem_append_left _ hc
  · exact absurd hg.symm (listClause_ne_error _ _)
  · exact conditions_eq_error hh.symm fun c hc => List.mem_append_right _ hc
  · exact absurd ho.symm (listClause_ne_error _ _)
  · exact absurd hl.symm (numberClause_ne_error _ _)
  · exact absurd hf.symm (numberClause_ne_error _ _)

theorem mem_of_mem_rows {width : Nat} {vs : List Value} {r : List Value} (hr : r ∈ rows width vs)
    {v : Value} (hv : v ∈ r) : v ∈ vs := by
  fun_induction rows width vs with
  | case1 vs h => cases hr
  | case2 vs h ih =>
    rcases List.mem_cons.1 hr with rfl | hr
    · exact List.mem_of_mem_take hv
    · exact List.mem_of_mem_drop (ih hr)

theorem insert_eq_error {table : String} {i : Insert} (h : insert table i = .error e) :
    (Statement.insert i).Blames e := by
  rw [insert] at h
  split at h
  next hv =>
    cases h
    exact .emptyInsert (List.isEmpty_iff.1 hv)
  next hv =>
    cases hr : i.recordCount? with
    | none =>
      rw [hr] at h
      cases h
      exact .raggedInsert (fun hn => hv (List.isEmpty_iff.2 hn)) hr
    | some n =>
      rw [hr] at h
      obtain ⟨r, hr, he⟩ := exists_of_commas_eq_error (labelled_eq_error h)
      obtain ⟨v, hv, hve⟩ := exists_of_commas_eq_error (enclosed_eq_error he)
      obtain ⟨rfl, hl⟩ := value_eq_error hve
      exact .misplacedValue (mem_of_mem_rows hr hv) hl

theorem update_eq_error {table : String} {u : Update} (h : update table u = .error e) :
    (Statement.update u).Blames e := by
  rw [update] at h
  split at h
  next hp =>
    cases h
    exact .emptyUpdate (List.isEmpty_iff.1 hp)
  next hp =>
    have hm := join_eq_error h
    simp only [List.mem_cons, List.not_mem_nil, or_false] at hm
    rcases hm with ht | ha | hc
    · exact absurd ht.symm (text_ne_error _)
    · obtain ⟨x, hx, he⟩ := exists_of_commas_eq_error ha.symm
      obtain ⟨rfl, hl⟩ := value_eq_error (labelled_eq_error he)
      exact .misplacedValue (List.mem_map_of_mem hx) hl
    · exact conditions_eq_error hc.symm fun _ hc => hc

theorem delete_eq_error {table : String} {d : Delete} (h : delete table d = .error e) :
    (Statement.delete d).Blames e :=
  conditions_eq_error (labelled_eq_error h) fun _ hc => hc

end Compile

/-- A refusal is right about what it tells of. -/
theorem QueryState.blames_of_compile {q : QueryState} {p : Placeholder} {e : CompileError}
    (h : q.compile p = .error e) : q.Blames e := by
  have hq : q.pieces = .error e := by
    rw [compile] at h
    cases hp : q.pieces with
    | error f =>
      rw [hp] at h
      cases h
      rfl
    | ok ps =>
      rw [hp] at h
      cases h
  obtain ⟨table, statement⟩ := q
  rw [pieces] at hq
  split at hq
  next ht =>
    cases hq
    exact .blankTable ht
  next ht =>
    refine .statement ?_
    cases statement with
    | select s => exact Compile.select_eq_error hq
    | insert i => exact Compile.insert_eq_error hq
    | update u => exact Compile.update_eq_error hq
    | delete d => exact Compile.delete_eq_error hq

end FluentSql
