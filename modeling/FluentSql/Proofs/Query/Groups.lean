import FluentSql.Proofs.Query.Identifiers
import FluentSql.Proofs.Query.Rendering
import FluentSql.Proofs.Query.Separators

/-! The groups of an INSERT: behind its heading stands one group of placeholders in parentheses for
each record, with one placeholder for each column. The placeholders are numbered through from group
to group, and the one at position `j` of group `r` stands for the value at `r * width + j`,
`insert_renders_records`. Names take no part in this, so that they may hold anything. -/

namespace FluentSql

/-- Groups in parentheses with commas between them, for each record one that is as wide as the
columns; at position `j` of group `r` stands the cell numbered `r * width + j`. -/
def Insert.groups (i : Insert) (cell : Nat → String) : String :=
  String.intercalate ", " <| (List.range (i.values.length / i.columns.length)).map fun r =>
    "(" ++ String.intercalate ", " ((List.range i.columns.length).map fun j =>
      cell (r * i.columns.length + j)) ++ ")"

namespace Piece

variable {p : Placeholder}

/-! ### Groups of placeholders -/

/-- Parts with commas between them, each laid out by the number of the parameters before it. -/
theorem layFrom_commas {α : Type} {f : α → List Piece} {xs : List α} (width : Nat)
    (g : Nat → String) (h : ∀ x ∈ xs, (params (f x)).length = width ∧ ∀ n, layFrom p n (f x) = g n)
    (n : Nat) : layFrom p n (Writer.pieces.commas (xs.map f)) =
      String.intercalate ", " ((List.range xs.length).map fun k => g (n + k * width)) := by
  induction xs generalizing n with
  | nil => rfl
  | cons x xs ih =>
    obtain ⟨⟨hw, hx⟩, hxs⟩ := List.forall_mem_cons.1 h
    cases xs with
    | nil => simp [Writer.commas, hx]
    | cons y ys =>
      have hcommas : Writer.pieces.commas ((x :: y :: ys).map f) =
          f x ++ text ", " :: Writer.pieces.commas ((y :: ys).map f) := rfl
      have hrange : (List.range (x :: y :: ys).length).map (fun k => g (n + k * width)) =
          g n :: (List.range (y :: ys).length).map fun k => g (n + width + k * width) := by
        rw [List.length_cons, List.range_succ_eq_map, List.map_cons, List.map_map, Nat.zero_mul]
        simp only [Function.comp_def, Nat.succ_mul, Nat.add_assoc, Nat.add_comm width, Nat.add_zero]
      rw [hcommas, layFrom_append, hx, hw, layFrom, ih hxs, hrange,
        String.intercalate_cons_of_ne_nil (by simp), String.append_assoc]

theorem layFrom_row (vs : List Value) (n : Nat) :
    layFrom p n (Writer.pieces.row vs) = "(" ++
      String.intercalate ", " ((List.range vs.length).map fun j => p.text (n + j + 1)) ++ ")" := by
  have value (v : Value) (_ : v ∈ vs) : (params (Writer.pieces.value v)).length = 1 ∧
      ∀ n, layFrom p n (Writer.pieces.value v) = p.text (n + 1) :=
    ⟨rfl, fun n => String.append_empty⟩
  have cells := layFrom_commas 1 (fun k => p.text (k + 1)) value n
  simp only [Nat.mul_one] at cells
  rw [Writer.row, List.append_assoc, layFrom_append, layFrom_append, ← cells]
  simp [Writer.pieces, layFrom, params, String.append_assoc]

end Piece

theorem Writer.length_of_mem_records {width : Nat} {vs r : List Value} (h : r ∈ records width vs) :
    r.length = width := by
  obtain ⟨k, hk, rfl⟩ := List.mem_map.1 h
  have hle : (k + 1) * width ≤ vs.length :=
    Nat.le_trans (Nat.mul_le_mul_right width (List.mem_range.1 hk)) (Nat.div_mul_le_self _ _)
  rw [Nat.succ_mul] at hle
  rw [List.length_take, List.length_drop]
  omega

/-- The pieces of the groups, whatever precedes them. -/
def Insert.parts (i : Insert) : List Piece :=
  Writer.pieces.commas ((Writer.records i.columns.length i.values).map Writer.pieces.row)

theorem Insert.layFrom_parts (p : Placeholder) (i : Insert) :
    Piece.layFrom p 0 i.parts = i.groups fun k => p.text (k + 1) := by
  have row (vs : List Value) (h : vs ∈ Writer.records i.columns.length i.values) :
      (Piece.params (Writer.pieces.row vs)).length = i.columns.length ∧
        ∀ n, Piece.layFrom p n (Writer.pieces.row vs) = "(" ++ String.intercalate ", "
          ((List.range i.columns.length).map fun j => p.text (n + j + 1)) ++ ")" := by
    have hw := Writer.length_of_mem_records h
    exact ⟨by rw [Piece.params_row, hw], fun n => by rw [Piece.layFrom_row, hw]⟩
  rw [parts, Piece.layFrom_commas i.columns.length _ row]
  simp only [Nat.zero_add, Writer.records, List.length_map, List.length_range]
  rfl

/-! ### Groups of literals -/

namespace Writer

variable (f : Value → String)

theorem literal_row (vs : List Value) :
    (literal f).row vs = ("(" ++ String.intercalate ", " (vs.map f) ++ ")").toList := by
  have cells := literal_commas f (vs.map f)
  rw [List.map_map] at cells
  rw [row, String.toList_append, String.toList_append, ← cells]
  rfl

end Writer

/-- The record numbered `r` has the values from `r * width` on. -/
theorem Writer.map_record (f : Value → String) {width r : Nat} {vs : List Value}
    (h : r < vs.length / width) :
    ((vs.drop (r * width)).take width).map f =
      (List.range width).map fun j => vs[r * width + j]?.elim "" f := by
  have hw : ((vs.drop (r * width)).take width).length = width :=
    length_of_mem_records (List.mem_map.2 ⟨r, List.mem_range.2 h, rfl⟩)
  refine List.ext_getElem (by simp only [List.length_map, hw, List.length_range]) fun j hj _ => ?_
  rw [List.length_map] at hj
  have hv : r * width + j < vs.length := by
    simp only [List.length_take, List.length_drop] at hj
    omega
  simp [List.getElem?_eq_getElem hv]

theorem Insert.literal_parts (f : Value → String) (i : Insert) :
    (Writer.literal f).commas
        ((Writer.records i.columns.length i.values).map (Writer.literal f).row) =
      (i.groups fun k => i.values[k]?.elim "" f).toList := by
  rw [groups, ← Writer.literal_commas f, Writer.records, List.map_map, List.map_map]
  refine congrArg _ (List.map_congr_left fun r hr => ?_)
  rw [Function.comp_apply, Function.comp_apply, Writer.literal_row,
    Writer.map_record f (List.mem_range.1 hr)]

/-! ### Reading the groups -/

/-- Nothing in the groups but the placeholders themselves looks like one. -/
theorem Insert.scan_groups (p : Placeholder) (i : Insert) :
    p.scan (i.groups fun k => p.text (k + 1)).toList = Piece.tokens p 0 i.parts := by
  have hchars : Piece.chars i.parts = Writer.bare.commas
      ((Writer.records i.columns.length i.values).map Writer.bare.row) := by
    rw [Piece.chars, parts, Writer.flatMap_rows]
    congr 1
    simp [Writer.replace, Writer.pieces, Writer.bare, Writer.literal]
  have hsign : p.sign ∉ Piece.chars i.parts := by
    rw [hchars]
    exact (Writer.signless_rows _).sign p
  have hspaced : Piece.Spaced i.parts := Writer.spaced_rows _
  rw [← layFrom_parts, Piece.scan_layFrom hspaced hsign]

/-- With literals of the values in the place of the placeholders, the groups hold the literals. -/
theorem Insert.substitute_groups (literal : Value → String) (p : Placeholder) (i : Insert)
    (h : Piece.params i.parts = i.values) :
    Placeholder.Token.substitute literal (p.scan (i.groups fun k => p.text (k + 1)).toList)
      i.values = (i.groups fun k => i.values[k]?.elim "" literal).toList := by
  have hparts := Piece.substitute_tokens literal p 0 i.parts
  rw [h] at hparts
  rw [i.scan_groups p, hparts, ← literal_parts, parts, Writer.flatMap_rows]
  congr 1 <;> simp [Writer.replace, Writer.pieces, Writer.literal]

/-! ### The rendering -/

/-- What an INSERT of whole records is rendered to. Behind the heading stand the groups, in which
the placeholder in cell `k` is the one numbered `k + 1`; and with literals of the parameters put in
the place of the placeholders, from left to right, cell `k` holds the literal of value `k`. -/
structure Insert.Rendered (p : Placeholder) (table : String) (i : Insert) (b : BuiltQuery) :
    Prop where
  /-- The product that is asserted is the number of the values, so that it is no larger. -/
  whole : i.values.length / i.columns.length * i.columns.length = i.values.length
  params : b.params = i.values
  text : b.sql = i.heading table ++ i.groups fun k => p.text (k + 1)
  reading : ∀ literal : Value → String,
    Placeholder.Token.substitute literal (p.scan (i.groups fun k => p.text (k + 1)).toList)
      b.params = (i.groups fun k => i.values[k]?.elim "" literal).toList

/-- The pieces of an INSERT of whole records, laid out. -/
theorem Insert.WellFormed.rendered {i : Insert} (h : i.WellFormed) (p : Placeholder)
    (table : String) : i.Rendered p table (Piece.lay p (Writer.pieces.insert table i)) := by
  have hc : Compile.insert table i = .ok (Writer.pieces.insert table i) :=
    (Compile.insert_makes table i).eq_ok_iff.2 ⟨i.accepted_iff.2 h, rfl⟩
  have hparams : Piece.params (Writer.pieces.insert table i) = i.values :=
    Insert.params_of_compiled hc
  refine ⟨Nat.div_mul_cancel h.whole, hparams, ?_, fun literal => ?_⟩
  · exact congrArg (i.heading table ++ ·) (i.layFrom_parts p)
  · rw [Piece.lay, hparams]
    exact i.substitute_groups literal p hparams

/-- The INSERTs that are rendered, and what to. -/
theorem Insert.render_eq_ok_iff {p : Placeholder} {table : String} {i : Insert} {b : BuiltQuery} :
    i.render p table = .ok b ↔
      i.WellFormed ∧ b = Piece.lay p (Writer.pieces.insert table i) := by
  rw [render_eq, Except.mapError_eq_ok_iff, (Compile.insert_makes table i).map_eq_ok_iff,
    accepted_iff]

theorem Insert.render_ne_fault (p : Placeholder) (table : String) (i : Insert) (f : Fault) :
    i.render p table ≠ .error (.fault f) := by
  rw [render_eq]
  cases Compile.insert table i with
  | error e =>
    intro h
    cases h
  | ok ps =>
    intro h
    cases h

/-- An INSERT is rendered without a fault, whatever its columns and values are: nothing is divided
by zero or cut into chunks of none, and the number of parameters is the one that is asserted. It is
rendered to whole records, one group of placeholders for each, exactly if it is well-formed; and
this is how a query of it compiles. -/
theorem insert_renders_records (p : Placeholder) (table : String) (i : Insert) :
    (∀ f, i.render p table ≠ .error (.fault f)) ∧
      ((∃ b, i.render p table = .ok b) ↔ i.WellFormed) ∧
      (∀ b, i.render p table = .ok b → i.Rendered p table b) ∧
      (QueryState.compile p ⟨table, .insert i⟩).mapError .refused =
        if Text.blank table then .error (.refused .blankTable) else i.render p table := by
  refine ⟨i.render_ne_fault p table, ?_, fun b hb => ?_, ?_⟩
  · simp only [Insert.render_eq_ok_iff, exists_and_left, exists_eq, and_true]
  · obtain ⟨hw, rfl⟩ := Insert.render_eq_ok_iff.1 hb
    exact hw.rendered p table
  · rw [i.render_eq p table, QueryState.compile, QueryState.pieces]
    cases Text.blank table <;> rfl

/-- Names may be repeated, and hold what looks like a placeholder. -/
theorem insert_renders_records_repeated_name :
    let i : Insert := ⟨["a", "a"], [.int 1, .text "?", .null, .int 2]⟩
    let b : BuiltQuery := ⟨"INSERT INTO t? (a, a) VALUES (?, ?), (?, ?)", i.values⟩
    i.render .question "t?" = .ok b ∧ i.Rendered .question "t?" b := by
  intro i b
  have ha : i.accepted = true := by decide
  have hb : i.render .question "t?" = .ok b :=
    Insert.render_eq_ok_iff.2 ⟨i.accepted_iff.1 ha, by cbv⟩
  exact ⟨hb, (insert_renders_records .question "t?" i).2.2.1 b hb⟩

end FluentSql
