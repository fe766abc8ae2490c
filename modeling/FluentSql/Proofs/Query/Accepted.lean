import FluentSql.Proofs.Query.Writer

/-! Which queries compile, and to which pieces. An operator accepts some operands and not others, a
condition is well formed if its operator accepts its value, and a statement is accepted if its parts
are. An accepted query compiles to itself written down in pieces, `compile_of_accepted`, and no
other query compiles. -/

namespace FluentSql

/-! ### What is accepted -/

/-- Whether an operator that takes an operand can take this one. -/
def Operator.accepts : Operator → Value → Bool
  | .isIn, .list items | .notIn, .list items => items.all (!·.isList)
  | .isIn, _ | .notIn, _ => true
  | .between, .list [low, high] => !low.isList && !high.isList
  | .between, _ => false
  | _, v => !v.isList

def Condition.wellFormed (c : Condition) : Bool :=
  c.operator.isUnary || c.value.any c.operator.accepts

def Select.accepted (s : Select) : Bool :=
  s.joins.all (·.operator.isComparison) && s.conditions.all Condition.wellFormed &&
    s.having.all Condition.wellFormed

def Insert.accepted (i : Insert) : Bool :=
  !i.values.isEmpty && !i.columns.isEmpty && i.values.length % i.columns.length == 0 &&
    i.values.all (!·.isList)

def Update.accepted (u : Update) : Bool :=
  !u.payload.isEmpty && u.payload.entries.all (!·.2.isList) && u.conditions.all Condition.wellFormed

def Delete.accepted (d : Delete) : Bool :=
  d.conditions.all Condition.wellFormed

def Statement.accepted : Statement → Bool
  | .select s => s.accepted
  | .insert i => i.accepted
  | .update u => u.accepted
  | .delete d => d.accepted

def QueryState.accepted (q : QueryState) : Bool :=
  !Text.blank q.table && q.statement.accepted

/-! ### Parts of a compilation -/

theorem Except.mapError_eq_ok_iff {ε δ α : Type} {f : ε → δ} {x : Except ε α} {y : α} :
    x.mapError f = .ok y ↔ x = .ok y := by
  cases x with
  | error e => exact iff_of_false (fun h => by cases h) fun h => by cases h
  | ok z =>
    exact ⟨fun h => congrArg Except.ok (Except.ok.inj h),
      fun h => congrArg Except.ok (Except.ok.inj h)⟩

/-- A part compiles exactly if `ok` holds, and to `ps`. -/
def Compiled.Makes (c : Compiled) (ok : Bool) (ps : List Piece) : Prop :=
  c.toOption = if ok then some ps else none

namespace Compiled.Makes

variable {c d : Compiled} {a b : Bool} {ps qs : List Piece} {β : Type}

theorem nil : Makes (.ok []) true [] := rfl

theorem text (s : String) : Makes (Compile.text s) true [.text s] := rfl

theorem error (e : CompileError) : Makes (.error e) false ps := rfl

theorem of_eq (h : Makes c a ps) (hab : a = b) (hps : ps = qs) : Makes c b qs := by
  subst hab hps
  exact h

theorem eq_ok (h : Makes c true ps) : c = .ok ps := by
  cases c with
  | error e => cases h
  | ok qs => exact congrArg Except.ok (Option.some.inj h)

theorem eq_error (h : Makes c false ps) : ∃ e, c = .error e := by
  cases c with
  | error e => exact ⟨e, rfl⟩
  | ok qs => cases h

theorem eq_ok_iff (h : Makes c a ps) : c = .ok qs ↔ a = true ∧ qs = ps := by
  cases a with
  | true =>
    rw [h.eq_ok, Except.ok.injEq, eq_comm]
    exact (and_iff_right rfl).symm
  | false =>
    obtain ⟨e, he⟩ := h.eq_error
    rw [he]
    exact iff_of_false (fun h => by cases h) fun h => by cases h.1

theorem map_eq_ok_iff {f : List Piece → β} {y : β} (h : Makes c a ps) :
    c.map f = .ok y ↔ a = true ∧ y = f ps := by
  constructor
  · intro hy
    cases c with
    | error e => cases hy
    | ok qs =>
      obtain ⟨ha, rfl⟩ := h.eq_ok_iff.1 rfl
      exact ⟨ha, (Except.ok.inj hy).symm⟩
  · rintro ⟨ha, rfl⟩
    rw [h.eq_ok_iff.2 ⟨ha, rfl⟩]
    rfl

/-- Two parts one after the other. -/
theorem append (hc : Makes c a ps) (hd : Makes d b qs) :
    Makes (do let ps ← c; let qs ← d; return ps ++ qs) (a && b) (ps ++ qs) := by
  unfold Makes at *
  cases c <;> cases d <;> cases a <;> cases b <;>
    simp_all [Except.toOption, bind, Except.bind, pure, Except.pure]

theorem join_cons {cs : List Compiled} (hc : Makes c a ps) (hcs : Makes (Compile.join cs) b qs) :
    Makes (Compile.join (c :: cs)) (a && b) (ps ++ qs) :=
  hc.append hcs

theorem join_nil : Makes (Compile.join []) true [] := rfl

theorem join_singleton (hc : Makes c a ps) : Makes (Compile.join [c]) a ps :=
  (hc.join_cons join_nil).of_eq (Bool.and_true a) (List.append_nil ps)

section Lists

variable {f : β → Compiled} {ok : β → Bool} {g : β → List Piece}

theorem join_map (h : ∀ x, Makes (f x) (ok x) (g x)) (xs : List β) :
    Makes (Compile.join (xs.map f)) (xs.all ok) (xs.flatMap g) := by
  induction xs with
  | nil => exact join_nil
  | cons x xs ih => exact (h x).join_cons ih

theorem commas (h : ∀ x, Makes (f x) (ok x) (g x)) (xs : List β) :
    Makes (Compile.commas (xs.map f)) (xs.all ok) (Writer.pieces.commas (xs.map g)) := by
  unfold Compile.commas Writer.commas
  induction xs with
  | nil => exact join_nil
  | cons x xs ih =>
    cases xs with
    | nil => exact (join_singleton (h x)).of_eq (by simp) (by simp)
    | cons y ys => exact (h x).join_cons ((text ", ").join_cons ih)

end Lists

end Compiled.Makes

namespace Compile

open Compiled (Makes)

/-! ### Conditions -/

theorem value_makes (v : Value) : Makes (value v) (!v.isList) (Writer.pieces.value v) := by
  cases v <;> rfl

/-- A part between two texts. -/
theorem enclosed_makes {c : Compiled} {ok : Bool} {ps : List Piece} (left right : String)
    (h : Makes c ok ps) :
    Makes (join [text left, c, text right]) ok
      (Writer.pieces.text left ++ ps ++ Writer.pieces.text right) :=
  ((Makes.text left).join_cons (h.join_cons (.join_singleton (.text right)))).of_eq (by simp)
    (by simp [Writer.pieces])

theorem operand_makes (column : String) (o : Operator) (v : Value) :
    Makes (operand column o v) (o.accepts v) (Writer.pieces.operand o v) := by
  have plain : Makes (join [text " ", value v]) (!v.isList)
      (Writer.pieces.text " " ++ Writer.pieces.value v) :=
    (Makes.text " ").join_cons (.join_singleton (value_makes v))
  cases o with
  | isIn | notIn =>
    cases v with
    | list items =>
      cases items with
      | nil => rfl
      | cons v vs => exact enclosed_makes " (" ")" (.commas value_makes (v :: vs))
    | _ => rfl
  | between =>
    match v with
    | .list [low, high] =>
      exact ((Makes.text " ").join_cons ((value_makes low).join_cons
        ((Makes.text " AND ").join_cons (.join_singleton (value_makes high))))).of_eq
          (by simp [Operator.accepts]) (by simp [Writer.operand, Writer.pieces])
    | .list [] | .list [_] | .list (_ :: _ :: _ :: _) => exact .error _
    | .null | .bool _ | .int _ | .float _ | .text _ | .bytes _ => exact .error _
  | _ => exact plain

theorem condition_makes (c : Condition) :
    Makes (condition c) c.wellFormed (Writer.pieces.condition c) := by
  unfold condition Condition.wellFormed Writer.condition
  cases c.operator.isUnary with
  | true => exact .text _
  | false =>
    refine (Makes.text _).join_cons (.join_singleton ?_)
    cases c.value with
    | none => exact .error _
    | some v => exact operand_makes c.column c.operator v

theorem conditions_makes (keyword : String) (cs : List Condition) :
    Makes (conditions keyword cs) (cs.all Condition.wellFormed)
      (Writer.pieces.conditions keyword cs) := by
  have further (cs : List Condition) :
      Makes (join (cs.flatMap fun c => [text (" " ++ c.combinator.sql ++ " "), condition c]))
        (cs.all Condition.wellFormed)
        (cs.flatMap fun c =>
          Writer.pieces.text (" " ++ c.combinator.sql ++ " ") ++ Writer.pieces.condition c) := by
    induction cs with
    | nil => rfl
    | cons d ds ih => exact (Makes.text _).join_cons ((condition_makes d).join_cons ih)
  cases cs with
  | nil => rfl
  | cons c cs => exact (Makes.text _).join_cons ((condition_makes c).join_cons (further cs))

/-! ### Statements -/

theorem joinClause_makes (j : Join) :
    Makes (joinClause j) j.operator.isComparison (Writer.pieces.joinClause j) := by
  unfold joinClause
  cases j.operator.isComparison <;> rfl

theorem listClause_makes (keyword : String) (terms : List String) :
    Makes (listClause keyword terms) true (Writer.pieces.listClause keyword terms) := by
  unfold listClause Writer.listClause
  split <;> rfl

theorem numberClause_makes (keyword : String) (n : Option UInt64) :
    Makes (numberClause keyword n) true (Writer.pieces.numberClause keyword n) := by
  cases n <;> rfl

theorem select_makes (table : String) (s : Select) :
    Makes (select table s) s.accepted (Writer.pieces.select table s) := by
  have order := listClause_makes "ORDER BY"
    (s.orderBy.map fun t => t.column ++ " " ++ t.direction.sql)
  have h := (Makes.join_map joinClause_makes s.joins).join_cons <|
    (conditions_makes "WHERE" s.conditions).join_cons <|
    (listClause_makes "GROUP BY" s.groupBy).join_cons <|
    (conditions_makes "HAVING" s.having).join_cons <|
    order.join_cons <|
    (numberClause_makes "LIMIT" s.limit).join_cons <|
    .join_singleton (numberClause_makes "OFFSET" s.offset)
  refine ((Makes.text _).join_cons h).of_eq ?_ ?_
  · simp [Select.accepted, Bool.and_assoc]
  · simp [Writer.select, Writer.pieces]

theorem flatten_rows {width : Nat} (hw : 0 < width) (vs : List Value) :
    (rows width vs).flatten = vs := by
  fun_induction rows width vs with
  | case1 vs h => rw [h.resolve_left (Nat.ne_of_gt hw)]; rfl
  | case2 vs h ih => rw [List.flatten_cons, ih, List.take_append_drop]

/-- Whole records are cut out one after the other. -/
theorem rows_eq_records {width r : Nat} (hw : 0 < width) (vs : List Value)
    (h : vs.length = r * width) : rows width vs = Writer.records width vs := by
  induction r generalizing vs with
  | zero =>
    have hv : vs = [] := List.length_eq_zero_iff.1 (by simpa using h)
    subst hv
    simp [rows, Writer.records]
  | succ r ih =>
    rw [Nat.succ_mul] at h
    have hv : vs ≠ [] := List.ne_nil_of_length_pos (by omega)
    have hd : (vs.drop width).length = r * width := by rw [List.length_drop]; omega
    rw [rows, dif_neg (by simp [hv]; omega), ih _ hd]
    unfold Writer.records
    rw [hd, h, Nat.add_div_right _ hw, List.range_succ_eq_map]
    simp only [List.map_cons, List.map_map, Nat.zero_mul, List.drop_zero, List.cons.injEq, true_and]
    refine List.map_congr_left fun i _ => ?_
    simp only [Function.comp_apply, List.drop_drop]
    rw [Nat.succ_mul, Nat.add_comm]

theorem row_makes (vs : List Value) :
    Makes (row vs) (vs.all (!·.isList)) (Writer.pieces.row vs) :=
  enclosed_makes "(" ")" (.commas value_makes vs)

theorem insert_makes (table : String) (i : Insert) :
    Makes (insert table i) i.accepted (Writer.pieces.insert table i) := by
  unfold insert Insert.accepted Insert.recordCount?
  cases i.values.isEmpty with
  | true => exact .error _
  | false =>
    by_cases h : i.columns.isEmpty = true ∨ i.values.length % i.columns.length ≠ 0
    · have hn : (!i.columns.isEmpty && i.values.length % i.columns.length == 0) = false := by
        rcases h with h | h <;> simp [h]
      rw [if_pos h, Bool.not_false, Bool.true_and, hn, Bool.false_and]
      exact .error _
    · rw [if_neg h]
      simp only [not_or, Decidable.not_not, Bool.not_eq_true] at h
      obtain ⟨hc, hm⟩ := h
      have hw : 0 < i.columns.length := List.length_pos_iff.2 (by simpa using hc)
      have hr := rows_eq_records hw i.values (Nat.div_mul_cancel (Nat.dvd_of_mod_eq_zero hm)).symm
      have ha : (Writer.records i.columns.length i.values).all (List.all · (!·.isList)) =
          i.values.all (!·.isList) := by
        rw [← hr, ← List.all_flatten, flatten_rows hw]
      refine ((Makes.text _).join_cons (.join_singleton (.commas row_makes _))).of_eq ?_ ?_
      · rw [hr, ha]; simp [hc, hm]
      · rw [hr]; rfl

theorem assignment_makes (column : String) (v : Value) :
    Makes (assignment column v) (!v.isList) (Writer.pieces.assignment column v) :=
  (Makes.text _).join_cons (.join_singleton (value_makes v))

theorem update_makes (table : String) (u : Update) :
    Makes (update table u) u.accepted (Writer.pieces.update table u) := by
  unfold update Update.accepted
  cases u.payload.isEmpty with
  | true => exact .error _
  | false =>
    have h := (Makes.text s!"UPDATE {table} SET ").join_cons <|
      (Makes.commas (fun e => assignment_makes e.1 e.2) u.payload.entries).join_cons <|
      .join_singleton (conditions_makes "WHERE" u.conditions)
    exact h.of_eq (by simp) (by simp [Writer.update, Writer.pieces])

theorem delete_makes (table : String) (d : Delete) :
    Makes (delete table d) d.accepted (Writer.pieces.delete table d) :=
  (Makes.text _).join_cons (.join_singleton (conditions_makes "WHERE" d.conditions))

end Compile

namespace QueryState

open Compiled (Makes)

theorem pieces_makes (q : QueryState) : Makes q.pieces q.accepted (Writer.pieces.query q) := by
  unfold pieces accepted Writer.query
  cases Text.blank q.table with
  | true => exact .error _
  | false =>
    cases q.statement with
    | select s => exact Compile.select_makes q.table s
    | insert i => exact Compile.insert_makes q.table i
    | update u => exact Compile.update_makes q.table u
    | delete d => exact Compile.delete_makes q.table d

theorem compile_of_accepted (p : Placeholder) {q : QueryState} (h : q.accepted = true) :
    q.compile p = .ok (Piece.lay p (Writer.pieces.query q)) :=
  q.pieces_makes.map_eq_ok_iff.2 ⟨h, rfl⟩

theorem compile_of_not_accepted (p : Placeholder) {q : QueryState} (h : q.accepted = false) :
    ∃ e, q.compile p = .error e := by
  have hq := q.pieces_makes
  rw [h] at hq
  obtain ⟨e, he⟩ := hq.eq_error
  exact ⟨e, by rw [compile, he]; rfl⟩

/-- What compiles is accepted, and compiles to itself written down in pieces. -/
theorem accepted_of_compile {p : Placeholder} {q : QueryState} {b : BuiltQuery}
    (h : q.compile p = .ok b) : q.accepted = true ∧ b = Piece.lay p (Writer.pieces.query q) :=
  q.pieces_makes.map_eq_ok_iff.1 h

/-- What is built is what the query compiles to. -/
theorem compile_of_build {p : Placeholder} {q : QueryState} {b : BuiltQuery}
    (h : q.build p = .ok b) : q.compile p = .ok b :=
  Except.mapError_eq_ok_iff.1 h

end QueryState

end FluentSql
