import FluentSql.Proofs.Query.Clauses
import FluentSql.Proofs.Query.Separators

/-! The compiled query determines the statement. Whole statements of plain identifiers are read back
clause by clause, up to their normal forms; the first word tells the kind. Hence two of them compile
to the same text and parameters exactly if they have the same normal form,
`compile_eq_iff_normal_eq`. -/

namespace FluentSql

/-! ### Statements that can be read -/

structure Select.Readable (s : Select) : Prop where
  columns : ∀ c ∈ s.columns, Plain c
  joins : ∀ j ∈ s.joins, j.Readable
  conditions : ∀ c ∈ s.conditions, c.Readable
  groupBy : ∀ c ∈ s.groupBy, Plain c
  having : ∀ c ∈ s.having, c.Readable
  orderBy : ∀ t ∈ s.orderBy, Plain t.column

structure Insert.Readable (i : Insert) : Prop where
  columns : ∀ c ∈ i.columns, Plain c
  wellFormed : i.WellFormed

structure Update.Readable (u : Update) : Prop where
  columns : ∀ e ∈ u.payload.entries, Plain e.1
  payload_ne_nil : u.payload.entries ≠ []
  conditions : ∀ c ∈ u.conditions, c.Readable

structure Delete.Readable (d : Delete) : Prop where
  conditions : ∀ c ∈ d.conditions, c.Readable

def Statement.Readable : Statement → Prop
  | .select s => s.Readable
  | .insert i => i.Readable
  | .update u => u.Readable
  | .delete d => d.Readable

/-- Well-formed statements of plain identifiers can be read. -/
theorem Statement.readable {s : Statement} (hs : ∀ i ∈ s.identifiers, Plain i)
    (hw : s.WellFormed) : s.Readable := by
  cases s with
  | select s =>
    simp only [identifiers, List.forall_mem_append, List.forall_mem_flatMap, List.forall_mem_map,
      List.forall_mem_cons] at hs
    obtain ⟨⟨⟨⟨⟨hc, hj⟩, hw'⟩, hg⟩, hh⟩, ho⟩ := hs
    exact ⟨hc, fun j m => ⟨(hj j m).1, (hj j m).2.1, (hj j m).2.2.1⟩,
      fun c m => ⟨hw' c m, hw.conditions c m⟩, hg, fun c m => ⟨hh c m, hw.having c m⟩, ho⟩
  | insert i => exact ⟨hs, hw⟩
  | update u =>
    simp only [identifiers, List.forall_mem_append, Record.keys, List.forall_mem_map] at hs
    exact ⟨hs.1, hw.payload_ne_nil, fun c m => ⟨hs.2 c m, hw.conditions c m⟩⟩
  | delete d =>
    simp only [identifiers, List.forall_mem_map] at hs
    exact ⟨fun c m => ⟨hs c m, hw.conditions c m⟩⟩

theorem StatementKind.eq_or_apart (k l : StatementKind) :
    k = l ∨ Symbol.Apart k.sql l.sql := by
  cases k <;> cases l <;> decide

/-! ### Rows of values -/

theorem Compile.ne_nil_of_mem_rows {width : Nat} {vs row : List Value}
    (h : row ∈ rows width vs) : row ≠ [] := by
  fun_induction rows width vs with
  | case1 vs hn => cases h
  | case2 vs hn ih =>
    obtain ⟨hw, hv⟩ := not_or.1 hn
    rcases List.mem_cons.1 h with rfl | h
    · simp [hw, hv]
    · exact ih h

namespace Insert.WellFormed

variable {i : Insert} (h : i.WellFormed)
include h

theorem records_ne_nil : Writer.records i.columns.length i.values ≠ [] := by
  intro hn
  have hv := h.flatten_records
  rw [hn] at hv
  exact h.values_ne_nil hv.symm

theorem ne_nil_of_mem_records {row : List Value}
    (hr : row ∈ Writer.records i.columns.length i.values) : row ≠ [] :=
  Compile.ne_nil_of_mem_rows (h.records_eq ▸ hr)

end Insert.WellFormed

namespace Symbol

open Writer (symbols text_append)

/-- At least one value in parentheses. -/
theorem Legible.row : Legible (· ≠ []) (fun _ => True) id symbols.row := by
  have close (xs : List Symbol) : Stops (symbols.text ")" ++ xs) :=
    starts_text rfl (by decide) xs
  intro vs ws hv hw xs ys _ _ h
  simp only [Writer.row, List.append_assoc] at h
  obtain ⟨hn, h⟩ := Legible.values hv hw (close xs) (close ys) (List.append_cancel_left h)
  exact ⟨hn, List.append_cancel_left h⟩

theorem Legible.assignment : Legible (fun e => Plain e.1) (fun _ => True) id
    fun e : String × Value => symbols.assignment e.1 e.2 := by
  rintro ⟨c, v⟩ ⟨d, w⟩ hc hd xs ys _ _ h
  simp only [Writer.assignment, text_append, List.append_assoc] at h
  have equals (xs : List Symbol) : Ends (symbols.text " = " ++ xs) :=
    starts_text rfl (by decide) xs
  obtain ⟨rfl, hv⟩ : c = d ∧ _ := Legible.name hc hd (equals _) (equals _) h
  obtain ⟨rfl, hr⟩ := value_append_inj (List.append_cancel_left hv)
  exact ⟨rfl, hr⟩

/-! ### Statements -/

/-- The clauses of a query of rows. -/
def clauses (s : Select) : List Symbol :=
  s.joins.flatMap symbols.joinClause ++ symbols.conditions "WHERE" s.conditions ++
    symbols.listClause "GROUP BY" (s.groupBy.map id) ++ symbols.conditions "HAVING" s.having ++
    symbols.listClause "ORDER BY" (s.orderBy.map fun t => t.column ++ " " ++ t.direction.sql) ++
    symbols.numberClause "LIMIT" s.limit ++ symbols.numberClause "OFFSET" s.offset

theorem select_eq (table : String) (s : Select) :
    symbols.select table s = symbols.text "SELECT " ++
      (symbols.text (String.intercalate ", " s.columns) ++
        (lead "FROM" ++ (symbols.text table ++ clauses s))) := by
  have from_ : symbols.text " FROM " = lead "FROM" := rfl
  simp only [Writer.select, clauses, text_append, List.append_assoc, List.map_id, from_]

theorem clausal_clauses :
    Clausal Select.Readable
      (joinWords ++ ["WHERE", "GROUP BY", "HAVING", "ORDER BY", "LIMIT", "OFFSET"]) []
      (fun s => ((((((s.joins.map id, Condition.normalList s.conditions), s.groupBy.map id),
        Condition.normalList s.having), s.orderBy.map id), s.limit), s.offset)) clauses := by
  -- from the last clause to the first, each in front of the keywords of those behind it
  refine .append ?_ ((Clausal.number (by decide)).of Select.offset fun _ _ => trivial)
  refine .append ?_ ((Clausal.number (by decide)).of Select.limit fun _ _ => trivial)
  refine .append ?_ ((Clausal.list (by decide) .sortTerm).of Select.orderBy fun _ h => h.orderBy)
  refine .append ?_ ((Clausal.conditions (by decide) (by decide)).of Select.having
    fun _ h => h.having)
  refine .append ?_ ((Clausal.list (by decide) .name).of Select.groupBy fun _ h => h.groupBy)
  refine .append ?_ ((Clausal.conditions (by decide) (by decide)).of Select.conditions
    fun _ h => h.conditions)
  exact (Clausal.joins (by decide)).of Select.joins fun _ h => h.joins

theorem Legible.select : Legible (fun q => Plain q.1 ∧ q.2.Readable) (Led [])
    (fun q => (q.1, q.2.normal)) fun q : String × Select => symbols.select q.1 q.2 := by
  rintro ⟨t, s⟩ ⟨u, r⟩ ⟨ht, hs⟩ ⟨hu, hr⟩ xs ys hxs hys h
  have behind {s : Select} {xs : List Symbol} (hxs : Led [] xs) : Ends (clauses s ++ xs) :=
    (clausal_clauses.led s xs hxs).blank.ends
  simp only [select_eq, List.append_assoc] at h
  obtain ⟨hc, h⟩ := Legible.names hs.columns hr.columns (blank_lead _ _).stops
    (blank_lead _ _).stops (List.append_cancel_left h)
  obtain ⟨htu, h⟩ := Legible.name ht hu (behind hxs) (behind hys) (List.append_cancel_left h)
  obtain ⟨hn, h⟩ := clausal_clauses.legible hs hr hxs hys h
  simp only [Prod.mk.injEq, List.map_id] at hn
  obtain ⟨⟨⟨⟨⟨⟨hj, hw⟩, hg⟩, hh⟩, ho⟩, hl⟩, hf⟩ := hn
  exact ⟨Prod.ext htu ((Select.mk.injEq ..).mpr ⟨hc, hj, hw, hg, hh, ho, hl, hf⟩), h⟩

theorem Legible.insert : Legible (fun q => Plain q.1 ∧ q.2.Readable) (Led []) id
    fun q : String × Insert => symbols.insert q.1 q.2 := by
  have opened (xs : List Symbol) : Ends (symbols.text " (" ++ xs) :=
    starts_text rfl (by decide) xs
  have closed (xs : List Symbol) : Stops (symbols.text ") VALUES " ++ xs) :=
    starts_text rfl (by decide) xs
  have rows := Legible.row.of_true.commas
  have full {i : Insert} (hi : i.WellFormed) :
      Writer.records i.columns.length i.values ≠ [] ∧
        ∀ row ∈ Writer.records i.columns.length i.values, row ≠ [] :=
    ⟨hi.records_ne_nil, fun _ => hi.ne_nil_of_mem_records⟩
  rintro ⟨t, i⟩ ⟨u, k⟩ ⟨ht, hi, wi⟩ ⟨hu, hk, wk⟩ xs ys hxs hys h
  simp only [Writer.insert, text_append, List.append_assoc] at h
  obtain ⟨htu, h⟩ := Legible.name ht hu (opened _) (opened _) (List.append_cancel_left h)
  obtain ⟨hc, h⟩ :=
    Legible.names hi hk (closed _) (closed _) (List.append_cancel_left h)
  obtain ⟨hn, h⟩ := rows (full wi) (full wk) hxs.blank.stops hys.blank.stops
    (List.append_cancel_left h)
  have hv : i.values = k.values := by
    rw [← wi.flatten_records, ← wk.flatten_records]
    exact congrArg List.flatten (by simpa using hn)
  exact ⟨Prod.ext htu ((Insert.mk.injEq ..).mpr ⟨hc, hv⟩), h⟩

theorem update_eq (table : String) (u : Update) :
    symbols.update table u = symbols.text "UPDATE " ++ (symbols.text table ++
      (symbols.text " SET " ++
        (symbols.commas (u.payload.entries.map fun e => symbols.assignment e.1 e.2) ++
          symbols.conditions "WHERE" u.conditions))) := by
  change symbols.text ("UPDATE " ++ table ++ " SET ") ++ _ ++ _ = _
  simp only [text_append, List.append_assoc]

theorem Legible.update : Legible (fun q => Plain q.1 ∧ q.2.Readable) (Led [])
    (fun q => (q.1, q.2.normal)) fun q : String × Update => symbols.update q.1 q.2 := by
  have set (xs : List Symbol) : Ends (symbols.text " SET " ++ xs) :=
    starts_text rfl (by decide) xs
  have payload := Legible.assignment.of_true.commas
  have wheres : Clausal _ ["WHERE"] [] _ _ := .conditions (by decide) (by decide)
  rintro ⟨t, v⟩ ⟨u, w⟩ ⟨ht, hv⟩ ⟨hu, hw⟩ xs ys hxs hys h
  simp only [update_eq, List.append_assoc] at h
  obtain ⟨htu, h⟩ := Legible.name ht hu (set _) (set _) (List.append_cancel_left h)
  obtain ⟨hp, h⟩ := payload ⟨hv.payload_ne_nil, hv.columns⟩ ⟨hw.payload_ne_nil, hw.columns⟩
    (wheres.led _ _ hxs).blank.stops (wheres.led _ _ hys).blank.stops (List.append_cancel_left h)
  obtain ⟨hc, h⟩ := wheres.legible hv.conditions hw.conditions hxs hys h
  have hpayload : v.payload = w.payload := (Record.mk.injEq ..).mpr (by simpa using hp)
  exact ⟨Prod.ext htu ((Update.mk.injEq ..).mpr ⟨hpayload, hc⟩), h⟩

theorem Legible.delete : Legible (fun q => Plain q.1 ∧ q.2.Readable) (Led [])
    (fun q => (q.1, q.2.normal)) fun q : String × Delete => symbols.delete q.1 q.2 := by
  have wheres : Clausal _ ["WHERE"] [] _ _ := .conditions (by decide) (by decide)
  rintro ⟨t, d⟩ ⟨u, e⟩ ⟨ht, hd⟩ ⟨hu, he⟩ xs ys hxs hys h
  simp only [Writer.delete, text_append, List.append_assoc] at h
  obtain ⟨htu, h⟩ := Legible.name ht hu (wheres.led _ _ hxs).blank.ends
    (wheres.led _ _ hys).blank.ends (List.append_cancel_left h)
  obtain ⟨hc, h⟩ := wheres.legible hd.conditions he.conditions hxs hys h
  exact ⟨Prod.ext htu ((Delete.mk.injEq ..).mpr hc), h⟩

/-- The first word of a query is its kind. -/
theorem exists_query_eq_kind (q : QueryState) (xs : List Symbol) :
    ∃ ys, Blank ys ∧ symbols.query q ++ xs = symbols.text q.kind.sql ++ ys := by
  obtain ⟨more, rest, hq⟩ := symbols.query_eq_kind q
  refine ⟨symbols.text (" " ++ more) ++ (rest ++ xs), blank_text more _, ?_⟩
  rw [hq, text_append, List.append_assoc, List.append_assoc]

theorem kind_eq {q r : QueryState} {xs ys : List Symbol}
    (h : symbols.query q ++ xs = symbols.query r ++ ys) : q.kind = r.kind := by
  obtain ⟨us, hus, hq⟩ := exists_query_eq_kind q xs
  obtain ⟨vs, hvs, hr⟩ := exists_query_eq_kind r ys
  rw [hq, hr] at h
  exact (Legible.word StatementKind.eq_or_apart trivial trivial hus hvs h).1

theorem Legible.query : Legible (fun q => Plain q.table ∧ q.statement.Readable) (Led [])
    QueryState.normal symbols.query := by
  rintro ⟨t, s⟩ ⟨u, r⟩ hq hr xs ys hxs hys h
  have hk := kind_eq h
  cases s with
  | select s =>
    cases r with
    | select r =>
      obtain ⟨hn, h⟩ := Legible.select (x := (t, s)) (y := (u, r)) hq hr hxs hys h
      exact ⟨congrArg (fun q => QueryState.mk q.1 (.select q.2)) hn, h⟩
    | _ => cases hk
  | insert i =>
    cases r with
    | insert k =>
      obtain ⟨hn, h⟩ := Legible.insert (x := (t, i)) (y := (u, k)) hq hr hxs hys h
      exact ⟨congrArg (fun q => QueryState.mk q.1 (.insert q.2)) hn, h⟩
    | _ => cases hk
  | update v =>
    cases r with
    | update w =>
      obtain ⟨hn, h⟩ := Legible.update (x := (t, v)) (y := (u, w)) hq hr hxs hys h
      exact ⟨congrArg (fun q => QueryState.mk q.1 (.update q.2)) hn, h⟩
    | _ => cases hk
  | delete d =>
    cases r with
    | delete e =>
      obtain ⟨hn, h⟩ := Legible.delete (x := (t, d)) (y := (u, e)) hq hr hxs hys h
      exact ⟨congrArg (fun q => QueryState.mk q.1 (.delete q.2)) hn, h⟩
    | _ => cases hk

end Symbol

/-! ### Compiled queries -/

/-- Text and parameters of a query of plain identifiers tell its symbols. -/
theorem QueryState.symbols_eq_of_compile_eq {p : Placeholder} {q r : QueryState} {b : BuiltQuery}
    (hb : q.compile p = .ok b) (hc : r.compile p = .ok b)
    (hq : ∀ s ∈ q.identifiers, Plain s) (hr : ∀ s ∈ r.identifiers, Plain s) :
    Writer.symbols.query q = Writer.symbols.query r := by
  have signless {q : QueryState} (hq : ∀ s ∈ q.identifiers, Plain s) :
      p.sign ∉ Piece.chars (Writer.pieces.query q) := by
    have hs := Writer.signless_query fun s hs => (hq s hs).signless
    rw [Piece.chars, Writer.flatMap_query]
    simpa [Writer.replace, Writer.pieces, Writer.bare, Writer.literal] using hs.sign p
  obtain ⟨-, hb⟩ := accepted_of_compile hb
  obtain ⟨-, hc⟩ := accepted_of_compile hc
  rw [← Writer.flatMap_symbols_query, ← Writer.flatMap_symbols_query]
  exact Piece.symbols_eq_of_lay_eq (Writer.spaced_query q) (Writer.spaced_query r) (signless hq)
    (signless hr) (hb.symm.trans hc)

/-- Two queries of plain identifiers that compile do so to the same text and parameters exactly if
they have the same normal form. No identifier has to be told from a keyword, since neither ever
stands in the place of the other. -/
theorem compile_eq_iff_normal_eq (p : Placeholder) {q r : QueryState} {b c : BuiltQuery}
    (hb : q.compile p = .ok b) (hc : r.compile p = .ok c)
    (hq : ∀ s ∈ q.identifiers, Plain s) (hr : ∀ s ∈ r.identifiers, Plain s) :
    b = c ↔ q.normal = r.normal := by
  have readable {q : QueryState} {b : BuiltQuery} (hb : q.compile p = .ok b)
      (hq : ∀ s ∈ q.identifiers, Plain s) : Plain q.table ∧ q.statement.Readable := by
    have hw := q.accepted_iff.1 (QueryState.accepted_of_compile hb).1
    rw [QueryState.identifiers, List.forall_mem_cons] at hq
    exact ⟨hq.1, Statement.readable hq.2 hw.statement⟩
  constructor
  · rintro rfl
    have hs := QueryState.symbols_eq_of_compile_eq hb hc hq hr
    exact (Symbol.Legible.query (readable hb hq) (readable hc hr) .nil .nil
      (congrArg (· ++ []) hs)).1
  · intro hn
    obtain ⟨-, rfl⟩ := QueryState.accepted_of_compile hb
    obtain ⟨-, rfl⟩ := QueryState.accepted_of_compile hc
    rw [← Writer.query_normal, hn, Writer.query_normal]

theorem compile_eq_iff_normal_eq_between_and_in :
    let bounds := Value.list [.int 0, .int 9]
    let q : QueryState := ⟨"t", .select { conditions := [⟨"a", .between, some bounds, .or⟩,
      ⟨"b", .isIn, some (.text "x"), .and⟩, ⟨"c", .isNull, some .null, .or⟩] }⟩
    let r : QueryState := ⟨"t", .select { conditions := [⟨"a", .between, some bounds, .and⟩,
      ⟨"b", .isIn, some (.list [.text "x"]), .and⟩, ⟨"c", .isNull, none, .or⟩] }⟩
    let b : BuiltQuery := ⟨"SELECT * FROM t WHERE a BETWEEN $1 AND $2 AND b IN ($3) OR c IS NULL",
      [.int 0, .int 9, .text "x"]⟩
    (q.compile .dollar = .ok b ∧ r.compile .dollar = .ok b ∧
      (∀ s ∈ q.identifiers, Plain s) ∧ ∀ s ∈ r.identifiers, Plain s) ∧ q.normal = r.normal := by
  intro bounds q r b
  have hb : q.compile .dollar = .ok b := by cbv
  have hc : r.compile .dollar = .ok b := by cbv
  have hq : ∀ s ∈ q.identifiers, Plain s := by decide
  have hr : ∀ s ∈ r.identifiers, Plain s := by decide
  exact ⟨⟨hb, hc, hq, hr⟩, (compile_eq_iff_normal_eq .dollar hb hc hq hr).1 rfl⟩

end FluentSql
