import FluentSql.Proofs.Query.Accepted

/-! Well-formed queries, said without compiling them: the table has a name, joins compare, operators
have the operands that they take, and what is written is there and holds no list. Exactly these
queries compile, `build_ok_iff_wellFormed`, and the style of the placeholders has no part in it. -/

namespace FluentSql

/-- What an operator takes as its operand. -/
def Operator.Takes : Operator → Value → Prop
  | .isIn, v | .notIn, v => ∀ items, v = .list items → ∀ item ∈ items, item.isList = false
  | .between, v => ∃ low high, v = .list [low, high] ∧ low.isList = false ∧ high.isList = false
  | _, v => v.isList = false

/-- A condition without operand, or with one that its operator takes. -/
def Condition.WellFormed (c : Condition) : Prop :=
  c.operator.isUnary = true ∨ ∃ v, c.value = some v ∧ c.operator.Takes v

structure Select.WellFormed (s : Select) : Prop where
  joins : ∀ j ∈ s.joins, j.operator.isComparison = true
  conditions : ∀ c ∈ s.conditions, c.WellFormed
  having : ∀ c ∈ s.having, c.WellFormed

/-- Whole records, at least one. -/
structure Insert.WellFormed (i : Insert) : Prop where
  values_ne_nil : i.values ≠ []
  columns_ne_nil : i.columns ≠ []
  whole : i.columns.length ∣ i.values.length
  scalar : ∀ v ∈ i.values, v.isList = false

structure Update.WellFormed (u : Update) : Prop where
  payload_ne_nil : u.payload.entries ≠ []
  scalar : ∀ e ∈ u.payload.entries, e.2.isList = false
  conditions : ∀ c ∈ u.conditions, c.WellFormed

structure Delete.WellFormed (d : Delete) : Prop where
  conditions : ∀ c ∈ d.conditions, c.WellFormed

def Statement.WellFormed : Statement → Prop
  | .select s => s.WellFormed
  | .insert i => i.WellFormed
  | .update u => u.WellFormed
  | .delete d => d.WellFormed

structure QueryState.WellFormed (q : QueryState) : Prop where
  table : ∃ c ∈ q.table.toList, Text.isBlank c = false
  statement : q.statement.WellFormed

/-! ### The accepted queries -/

theorem Operator.accepts_iff_takes (o : Operator) (v : Value) :
    o.accepts v = true ↔ o.Takes v := by
  cases o with
  | isIn | notIn =>
    cases v with
    | list items => simp [accepts, Takes]
    | _ => simp [accepts, Takes]
  | between =>
    cases v with
    | list items =>
      rcases items with _ | ⟨low, _ | ⟨high, _ | ⟨v, items⟩⟩⟩
      · simp [accepts, Takes]
      · simp [accepts, Takes]
      · simp only [accepts, Bool.and_eq_true, Bool.not_eq_true']
        constructor
        · rintro ⟨hl, hh⟩
          exact ⟨low, high, rfl, hl, hh⟩
        · rintro ⟨_, _, h, hl, hh⟩
          cases h
          exact ⟨hl, hh⟩
      · simp [accepts, Takes]
    | _ => simp [accepts, Takes]
  | _ => exact iff_of_eq (Bool.not_eq_true' _)

theorem Condition.wellFormed_iff (c : Condition) : c.wellFormed = true ↔ c.WellFormed := by
  unfold wellFormed WellFormed
  rw [Bool.or_eq_true, Option.any_eq_true]
  simp only [Operator.accepts_iff_takes]

theorem Select.accepted_iff (s : Select) : s.accepted = true ↔ s.WellFormed := by
  simp only [accepted, Bool.and_eq_true, List.all_eq_true, Condition.wellFormed_iff]
  constructor
  · rintro ⟨⟨j, c⟩, h⟩
    exact ⟨j, c, h⟩
  · rintro ⟨j, c, h⟩
    exact ⟨⟨j, c⟩, h⟩

theorem Insert.accepted_iff (i : Insert) : i.accepted = true ↔ i.WellFormed := by
  simp only [accepted, Bool.and_eq_true, Bool.not_eq_true', List.isEmpty_eq_false_iff, beq_iff_eq,
    List.all_eq_true, ← Nat.dvd_iff_mod_eq_zero]
  exact ⟨fun ⟨⟨⟨v, c⟩, w⟩, s⟩ => ⟨v, c, w, s⟩, fun ⟨v, c, w, s⟩ => ⟨⟨⟨v, c⟩, w⟩, s⟩⟩

theorem Update.accepted_iff (u : Update) : u.accepted = true ↔ u.WellFormed := by
  simp only [accepted, Record.isEmpty, Bool.and_eq_true, Bool.not_eq_true',
    List.isEmpty_eq_false_iff, List.all_eq_true, Condition.wellFormed_iff]
  exact ⟨fun ⟨⟨p, s⟩, c⟩ => ⟨p, s, c⟩, fun ⟨p, s, c⟩ => ⟨⟨p, s⟩, c⟩⟩

theorem Delete.accepted_iff (d : Delete) : d.accepted = true ↔ d.WellFormed := by
  simp only [accepted, List.all_eq_true, Condition.wellFormed_iff]
  exact ⟨fun h => ⟨h⟩, fun h => h.conditions⟩

theorem Statement.accepted_iff (s : Statement) : s.accepted = true ↔ s.WellFormed := by
  cases s with
  | select s => exact s.accepted_iff
  | insert i => exact i.accepted_iff
  | update u => exact u.accepted_iff
  | delete d => exact d.accepted_iff

theorem QueryState.accepted_iff (q : QueryState) : q.accepted = true ↔ q.WellFormed := by
  have table : (!Text.blank q.table) = true ↔ ∃ c ∈ q.table.toList, Text.isBlank c = false := by
    simp [Text.blank]
  rw [accepted, Bool.and_eq_true, table, Statement.accepted_iff]
  exact ⟨fun ⟨t, s⟩ => ⟨t, s⟩, fun ⟨t, s⟩ => ⟨t, s⟩⟩

/-! ### Rows of values -/

namespace Insert.WellFormed

variable {i : Insert} (h : i.WellFormed)
include h

theorem records_eq : Writer.records i.columns.length i.values =
    Compile.rows i.columns.length i.values :=
  (Compile.rows_eq_records (List.length_pos_iff.2 h.columns_ne_nil) i.values
    (Nat.div_mul_cancel h.whole).symm).symm

theorem flatten_records : (Writer.records i.columns.length i.values).flatten = i.values := by
  rw [h.records_eq, Compile.flatten_rows (List.length_pos_iff.2 h.columns_ne_nil)]

end Insert.WellFormed

/-! ### Compiling -/

/-- The pieces of a query, or its refusal, come before the style of the placeholders. -/
theorem QueryState.build_styles (q : QueryState) :
    (q.accepted = true ∧ ∃ params, ∀ p, ∃ sql, q.build p = .ok ⟨sql, params⟩) ∨
      q.accepted = false ∧ ∃ e : CompileError, ∀ p, q.build p = .error (.validation e.message) := by
  have hq := q.pieces_makes
  cases ha : q.accepted with
  | true =>
    rw [ha] at hq
    refine .inl ⟨rfl, Piece.params (Writer.pieces.query q), fun p => ?_⟩
    exact ⟨Piece.layFrom p 0 (Writer.pieces.query q), by
      rw [build, compile_of_accepted p ha]; rfl⟩
  | false =>
    rw [ha] at hq
    obtain ⟨e, he⟩ := hq.eq_error
    exact .inr ⟨rfl, e, fun p => by rw [build, compile, he]; rfl⟩

/-- A query compiles exactly if it is well-formed. Then it has the same parameters in both styles,
and otherwise both styles refuse it for the same cause. -/
theorem build_ok_iff_wellFormed (q : QueryState) :
    (∀ p, (∃ b, q.build p = .ok b) ↔ q.WellFormed) ∧
      ((∃ params, ∀ p, ∃ sql, q.build p = .ok ⟨sql, params⟩) ∨
        ∃ e : CompileError, ∀ p, q.build p = .error (.validation e.message)) := by
  obtain ⟨ha, params, h⟩ | ⟨ha, e, h⟩ := q.build_styles
  · refine ⟨fun p => ?_, .inl ⟨params, h⟩⟩
    obtain ⟨sql, hp⟩ := h p
    exact iff_of_true ⟨_, hp⟩ (q.accepted_iff.1 ha)
  · refine ⟨fun p => ?_, .inr ⟨e, h⟩⟩
    have hw : ¬ q.WellFormed := fun hw => absurd (q.accepted_iff.2 hw) (by simp [ha])
    refine iff_of_false ?_ hw
    rintro ⟨b, hb⟩
    rw [h p] at hb
    cases hb

end FluentSql
