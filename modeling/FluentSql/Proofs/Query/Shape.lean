import FluentSql.Proofs.Query.Accepted

/-! The shape of a query is what stays when the contents of its operands are forgotten: of a value
only whether it is a list, and of a list only which of its elements are lists. Whether a query
compiles, and to which text, depends on its shape alone, `compile_sql_of_shape_eq`, so that no value
gets into a text. -/

namespace FluentSql

/-! ### Shapes -/

/-- All that is kept of an element of a list. -/
def Value.outline (v : Value) : Value :=
  if v.isList then .list [] else .null

/-- A value without its content. -/
def Value.shape : Value → Value
  | .list items => .list (items.map outline)
  | _ => .null

def Condition.shape (c : Condition) : Condition :=
  { c with value := c.value.map Value.shape }

def Record.shape (r : Record) : Record :=
  ⟨r.entries.map fun e => (e.1, e.2.shape), by simpa [Function.comp_def] using r.nodup⟩

def Statement.shape : Statement → Statement
  | .select s =>
    .select { s with
      conditions := s.conditions.map Condition.shape
      having := s.having.map Condition.shape }
  | .insert i => .insert { i with values := i.values.map Value.shape }
  | .update u => .update ⟨u.payload.shape, u.conditions.map Condition.shape⟩
  | .delete d => .delete ⟨d.conditions.map Condition.shape⟩

def QueryState.shape (q : QueryState) : QueryState :=
  { q with statement := q.statement.shape }

/-! ### What is accepted -/

@[simp] theorem Value.isList_outline (v : Value) : v.outline.isList = v.isList := by
  cases v <;> rfl

@[simp] theorem Value.isList_shape (v : Value) : v.shape.isList = v.isList := by
  cases v <;> rfl

theorem Operator.accepts_shape (o : Operator) (v : Value) : o.accepts v.shape = o.accepts v := by
  cases o with
  | isIn | notIn =>
    cases v with
    | list items => simp [accepts, Value.shape, List.all_map, Function.comp_def]
    | _ => rfl
  | between =>
    cases v with
    | list items =>
      rcases items with _ | ⟨low, _ | ⟨high, _ | ⟨next, rest⟩⟩⟩
      · rfl
      · rfl
      · simp [accepts, Value.shape]
      · rfl
    | _ => rfl
  | _ => exact congrArg (!·) (Value.isList_shape v)

theorem Condition.wellFormed_shape (c : Condition) : c.shape.wellFormed = c.wellFormed := by
  unfold wellFormed shape
  cases c.value with
  | none => rfl
  | some v => simp [Operator.accepts_shape]

/-- Whether a query is accepted depends on its shape. -/
theorem QueryState.accepted_shape (q : QueryState) : q.shape.accepted = q.accepted := by
  have conditions (cs : List Condition) :
      (cs.map Condition.shape).all Condition.wellFormed = cs.all Condition.wellFormed := by
    simp only [List.all_map, Function.comp_def, Condition.wellFormed_shape]
  unfold accepted shape Statement.accepted Statement.shape
  cases q.statement with
  | select s => simp only [Select.accepted, conditions]
  | insert i => simp [Insert.accepted, List.all_map, Function.comp_def]
  | update u =>
    simp [Update.accepted, Record.isEmpty, Record.shape, conditions, List.all_map,
      Function.comp_def]
  | delete d => simp only [Delete.accepted, conditions]

/-! ### What is written -/

namespace Writer

variable {α : Type} {w : Writer α}

/-- One thing is written for all values. -/
def Blind (w : Writer α) : Prop :=
  ∀ u v, w.value u = w.value v

theorem members_shape (hw : w.Blind) (v : Value) : w.members v.shape = w.members v := by
  cases v with
  | list items =>
    cases items with
    | nil => rfl
    | cons v vs =>
      have h : (v :: vs).map (w.value ∘ Value.outline) = (v :: vs).map w.value :=
        List.map_congr_left fun u _ => hw _ u
      rw [← List.map_map] at h
      exact congrArg w.commas h
  | _ => exact hw _ _

theorem operand_shape (hw : w.Blind) (o : Operator) (v : Value) :
    w.operand o v.shape = w.operand o v := by
  cases o with
  | isIn | notIn => simp only [operand, members_shape hw]
  | between =>
    cases v with
    | list items =>
      rcases items with _ | ⟨low, _ | ⟨high, _ | ⟨next, rest⟩⟩⟩
      · exact congrArg (w.text " " ++ ·) (hw _ _)
      · exact congrArg (w.text " " ++ ·) (hw _ _)
      · have hl := hw low.outline low
        have hh := hw high.outline high
        simp only [operand, Value.shape, List.map_cons, List.map_nil, hl, hh]
      · exact congrArg (w.text " " ++ ·) (hw _ _)
    | _ => exact congrArg (w.text " " ++ ·) (hw _ _)
  | _ => exact congrArg (w.text " " ++ ·) (hw _ _)

theorem condition_shape (hw : w.Blind) (c : Condition) : w.condition c.shape = w.condition c := by
  unfold condition Condition.shape
  cases c.value with
  | none => rfl
  | some v => simp [operand_shape hw]

theorem conditions_shape (hw : w.Blind) (keyword : String) (cs : List Condition) :
    w.conditions keyword (cs.map Condition.shape) = w.conditions keyword cs := by
  cases cs with
  | nil => rfl
  | cons c cs =>
    simp only [List.map_cons, conditions, condition_shape hw, List.flatMap_map]
    rfl

theorem records_map (f : Value → Value) (width : Nat) (vs : List Value) :
    records width (vs.map f) = (records width vs).map (List.map f) := by
  simp only [records, List.length_map, List.map_map]
  refine List.map_congr_left fun r _ => ?_
  rw [Function.comp_apply, ← List.map_drop, ← List.map_take]

theorem row_shape (hw : w.Blind) (vs : List Value) : w.row (vs.map Value.shape) = w.row vs := by
  have h : vs.map (w.value ∘ Value.shape) = vs.map w.value :=
    List.map_congr_left fun u _ => hw _ u
  rw [row, List.map_map, h, row]

/-- A writer that is blind for values writes a query as its shape. -/
theorem query_shape (hw : w.Blind) (q : QueryState) : w.query q.shape = w.query q := by
  unfold query QueryState.shape Statement.shape
  cases q.statement with
  | select s => simp only [select, conditions_shape hw]
  | insert i =>
    simp only [insert, records_map, List.map_map, Function.comp_def, row_shape hw]
  | update u =>
    have h : u.payload.shape.entries.map (fun e => w.assignment e.1 e.2) =
        u.payload.entries.map fun e => w.assignment e.1 e.2 := by
      rw [Record.shape, List.map_map]
      exact List.map_congr_left fun e _ => congrArg (w.text (e.1 ++ " = ") ++ ·) (hw _ _)
    simp only [update, conditions_shape hw, h]
  | delete d => simp only [delete, conditions_shape hw]

end Writer

/-! ### The text -/

/-- A piece without its value. -/
def Piece.outline : Piece → Piece
  | .text s => .text s
  | .bind _ => .bind .null

theorem Piece.layFrom_outline (p : Placeholder) (n : Nat) (ps : List Piece) :
    layFrom p n (ps.map outline) = layFrom p n ps := by
  induction ps generalizing n with
  | nil => rfl
  | cons x ps ih => cases x <;> simp only [List.map_cons, outline, layFrom, ih]

/-- The pieces of two queries of one shape differ in their values alone. -/
theorem Writer.outline_pieces_of_shape_eq {q r : QueryState} (h : q.shape = r.shape) :
    (pieces.query q).map Piece.outline = (pieces.query r).map Piece.outline := by
  have blind : (pieces.replace fun x => [x.outline]).Blind := fun _ _ => rfl
  rw [List.map_eq_flatMap, List.map_eq_flatMap, flatMap_query, flatMap_query,
    ← query_shape blind q, h, query_shape blind r]

/-- Queries of one shape compile to the same text, or do not compile. -/
theorem compile_sql_of_shape_eq (p : Placeholder) {q r : QueryState} (h : q.shape = r.shape) :
    (∃ e f, q.compile p = .error e ∧ r.compile p = .error f) ∨
      ∃ b c, q.compile p = .ok b ∧ r.compile p = .ok c ∧ b.sql = c.sql := by
  have ha : q.accepted = r.accepted := by
    rw [← q.accepted_shape, h, r.accepted_shape]
  cases hr : r.accepted with
  | false =>
    obtain ⟨e, he⟩ := QueryState.compile_of_not_accepted p (ha.trans hr)
    obtain ⟨f, hf⟩ := QueryState.compile_of_not_accepted p hr
    exact .inl ⟨e, f, he, hf⟩
  | true =>
    refine .inr ⟨_, _, QueryState.compile_of_accepted p (ha.trans hr),
      QueryState.compile_of_accepted p hr, ?_⟩
    simp only [Piece.lay]
    rw [← Piece.layFrom_outline, Writer.outline_pieces_of_shape_eq h, Piece.layFrom_outline]

theorem compile_sql_of_shape_eq_update :
    let q (name : String) (ids : List Value) : QueryState := ⟨"users", .update
      ⟨.ofPairs [("name", .text name)], [⟨"id", .isIn, some (.list ids), .and⟩]⟩⟩
    let q₁ := q "O'Hara" [.int 1, .text "2"]
    let q₂ := q "x'; DROP TABLE users; --" [.null, .bytes []]
    q₁.shape = q₂.shape ∧
      ((∃ e f, q₁.compile .question = .error e ∧ q₂.compile .question = .error f) ∨
        ∃ b c, q₁.compile .question = .ok b ∧ q₂.compile .question = .ok c ∧ b.sql = c.sql) := by
  intro q q₁ q₂
  have h : q₁.shape = q₂.shape := rfl
  exact ⟨h, compile_sql_of_shape_eq .question h⟩

end FluentSql
