import FluentSql.Proofs.Client.Execution
import FluentSql.Proofs.Query.Accepted
import FluentSql.Proofs.Query.Refused

/-! What reaches a driver as a parameter. A value becomes one in a single place of the compiler, and
lists are refused there, so that a compiled query has no list among its parameters, however lists
are nested in its operands. An execution calls its driver with the parameters of the compiled query
and with no others, and no codec refuses one of those for being a list, `execute_binds`. -/

namespace FluentSql

/-! ### Parameters of a compiled query -/

/-- The part binds no list, if it compiles. -/
def Compiled.Flat (c : Compiled) : Prop :=
  ∀ ps, c = .ok ps → ∀ v ∈ Piece.params ps, v.isList = false

namespace Compile

open Compiled (Flat)

theorem flat_nil : Flat (.ok []) := by
  intro ps h
  cases h
  exact List.forall_mem_nil _

theorem flat_text (s : String) : Flat (text s) := by
  intro ps h
  cases h
  exact List.forall_mem_nil _

theorem flat_error (e : CompileError) : Flat (.error e) := by
  intro ps h
  cases h

/-- The one place where a value is bound. -/
theorem flat_value (v : Value) : Flat (value v) := by
  intro ps h
  cases v with
  | list items => cases h
  | _ =>
    cases h
    exact List.forall_mem_singleton.2 rfl

theorem flat_join {cs : List Compiled} (h : ∀ c ∈ cs, Flat c) : Flat (join cs) := by
  induction cs with
  | nil => exact flat_nil
  | cons c cs ih =>
    obtain ⟨hc, hcs⟩ := List.forall_mem_cons.1 h
    intro ps hps
    cases hx : c with
    | error e =>
      rw [hx] at hps
      cases hps
    | ok qs =>
      cases hy : join cs with
      | error e =>
        simp only [hx, join, hy] at hps
        cases hps
      | ok rs =>
        simp only [hx, join, hy] at hps
        cases hps
        rw [Piece.params_append]
        exact List.forall_mem_append.2 ⟨hc qs hx, ih hcs rs hy⟩

theorem flat_commas {α : Type} {f : α → Compiled} (h : ∀ x, Flat (f x)) (xs : List α) :
    Flat (commas (xs.map f)) := by
  refine flat_join ?_
  intro c hc
  rcases mem_intersperse hc with rfl | hc
  · exact flat_text ", "
  · obtain ⟨x, -, rfl⟩ := List.mem_map.1 hc
    exact h x

theorem flat_labelled {c : Compiled} (label : String) (h : Flat c) : Flat (join [text label, c]) :=
  flat_join (by simp [flat_text, h])

theorem flat_enclosed {c : Compiled} (left right : String) (h : Flat c) :
    Flat (join [text left, c, text right]) :=
  flat_join (by simp [flat_text, h])

/-! ### Clauses -/

theorem flat_operand (column : String) (o : Operator) (v : Value) : Flat (operand column o v) := by
  have members (v : Value) : Flat (operand column .isIn v) := by
    cases v with
    | list items =>
      cases items with
      | nil => exact flat_enclosed " (" ")" (flat_text "NULL")
      | cons x xs => exact flat_enclosed " (" ")" (flat_commas flat_value (x :: xs))
    | _ => exact flat_enclosed " (" ")" (flat_value _)
  cases o with
  | isIn => exact members v
  | notIn => exact members v
  | between =>
    match v with
    | .list [low, high] =>
      refine flat_join ?_
      simp only [List.forall_mem_cons, List.not_mem_nil, false_implies, implies_true, and_true]
      exact ⟨flat_text " ", flat_value low, flat_text " AND ", flat_value high⟩
    | .list [] | .list [_] | .list (_ :: _ :: _ :: _) | .null | .bool _ | .int _ | .float _
    | .text _ | .bytes _ => exact flat_error _
  | _ => exact flat_labelled " " (flat_value v)

theorem flat_condition (c : Condition) : Flat (condition c) := by
  rw [condition]
  cases c.operator.isUnary with
  | true => exact flat_text _
  | false =>
    refine flat_labelled _ ?_
    cases c.value with
    | none => exact flat_error _
    | some v => exact flat_operand c.column c.operator v

theorem flat_conditions (keyword : String) (cs : List Condition) :
    Flat (conditions keyword cs) := by
  cases cs with
  | nil => exact flat_nil
  | cons c cs =>
    refine flat_join ?_
    intro d hd
    simp only [List.mem_cons, List.mem_flatMap, List.not_mem_nil, or_false] at hd
    rcases hd with rfl | rfl | ⟨e, -, rfl | rfl⟩
    · exact flat_text _
    · exact flat_condition c
    · exact flat_text _
    · exact flat_condition e

theorem flat_joinClause (j : Join) : Flat (joinClause j) := by
  rw [joinClause]
  split
  · exact flat_text _
  · exact flat_error _

theorem flat_listClause (keyword : String) (terms : List String) :
    Flat (listClause keyword terms) := by
  rw [listClause]
  split
  · exact flat_nil
  · exact flat_text _

theorem flat_numberClause (keyword : String) (n : Option UInt64) :
    Flat (numberClause keyword n) := by
  cases n with
  | none => exact flat_nil
  | some n => exact flat_text _

/-! ### Statements -/

theorem flat_select (table : String) (s : Select) : Flat (select table s) := by
  have hjoins : Flat (join (s.joins.map joinClause)) := by
    refine flat_join ?_
    intro c hc
    obtain ⟨j, -, rfl⟩ := List.mem_map.1 hc
    exact flat_joinClause j
  refine flat_join ?_
  simp only [List.forall_mem_cons, List.not_mem_nil, false_implies, implies_true, and_true]
  exact ⟨flat_text _, hjoins, flat_conditions "WHERE" s.conditions, flat_listClause "GROUP BY" _,
    flat_conditions "HAVING" s.having, flat_listClause "ORDER BY" _, flat_numberClause "LIMIT" _,
    flat_numberClause "OFFSET" _⟩

theorem flat_insert (table : String) (i : Insert) : Flat (insert table i) := by
  rw [insert]
  split
  · exact flat_error _
  · cases i.recordCount? with
    | none => exact flat_error _
    | some n =>
      refine flat_labelled _ (flat_commas ?_ _)
      intro vs
      exact flat_enclosed "(" ")" (flat_commas flat_value vs)

theorem flat_update (table : String) (u : Update) : Flat (update table u) := by
  rw [update]
  split
  · exact flat_error _
  · have hassignment (x : String × Value) : Flat (assignment x.1 x.2) :=
      flat_labelled _ (flat_value x.2)
    refine flat_join ?_
    simp only [List.forall_mem_cons, List.not_mem_nil, false_implies, implies_true, and_true]
    exact ⟨flat_text _, flat_commas hassignment _, flat_conditions "WHERE" u.conditions⟩

theorem flat_delete (table : String) (d : Delete) : Flat (delete table d) :=
  flat_labelled _ (flat_conditions "WHERE" d.conditions)

end Compile

theorem QueryState.flat_pieces (q : QueryState) : q.pieces.Flat := by
  obtain ⟨table, s⟩ := q
  rw [pieces]
  split
  · exact Compile.flat_error _
  · cases s with
    | select s => exact Compile.flat_select table s
    | insert i => exact Compile.flat_insert table i
    | update u => exact Compile.flat_update table u
    | delete d => exact Compile.flat_delete table d

/-- No parameter of a compiled query is a list. -/
theorem QueryState.flat_compile {q : QueryState} {p : Placeholder} {b : BuiltQuery}
    (h : q.compile p = .ok b) : ∀ v ∈ b.params, v.isList = false := by
  rw [compile] at h
  cases hq : q.pieces with
  | error e =>
    rw [hq] at h
    cases h
  | ok ps =>
    rw [hq] at h
    cases h
    exact q.flat_pieces ps hq

/-! ### Codecs -/

/-- Parameters without a list, of which no codec refuses one for being a list. -/
structure Bindable (params : List Value) : Prop where
  flat : ∀ v ∈ params, v.isList = false
  mysql : ∃ bound, params.mapM MySql.Param.ofValue? = some bound
  sqlite : ∃ bound, params.mapM Sqlite.bind = .ok bound
  postgres : ∀ v ∈ params, ∀ t, Postgres.encode v t ≠ .error .list

/-- A traversal succeeds if it does at every element, whatever failing is. -/
theorem exists_mapM_eq_pure {m : Type → Type} [Monad m] [LawfulMonad m] {α β : Type} {f : α → m β}
    {xs : List α} (h : ∀ x ∈ xs, ∃ y, f x = pure y) : ∃ ys, xs.mapM f = pure ys := by
  induction xs with
  | nil => exact ⟨[], List.mapM_nil⟩
  | cons x xs ih =>
    obtain ⟨⟨y, hy⟩, hxs⟩ := List.forall_mem_cons.1 h
    obtain ⟨ys, hys⟩ := ih hxs
    exact ⟨y :: ys, by rw [List.mapM_cons, hy, hys, pure_bind, pure_bind]⟩

theorem MySql.exists_mapM_ofValue? {params : List Value} (h : ∀ v ∈ params, v.isList = false) :
    ∃ bound, params.mapM Param.ofValue? = some bound := by
  refine exists_mapM_eq_pure fun v hv => ?_
  have hl := h v hv
  cases v with
  | list items => cases hl
  | _ => exact ⟨_, rfl⟩

theorem Sqlite.exists_mapM_bind {params : List Value} (h : ∀ v ∈ params, v.isList = false) :
    ∃ bound, params.mapM bind = .ok bound := by
  refine exists_mapM_eq_pure fun v hv => ?_
  have hl := h v hv
  cases v with
  | list items => cases hl
  | _ => exact ⟨_, rfl⟩

namespace Postgres

theorem encodeInt_ne_list (width : Nat) (low high : Int) (n : Int64) :
    encodeInt width low high n ≠ .error .list := by
  rw [encodeInt]
  split <;> rintro ⟨⟩

theorem bindInt_ne_list (n : Int64) (t : DataType) : bindInt n t ≠ .error .list := by
  cases t with
  | int2 | int4 | oid => exact encodeInt_ne_list _ _ _ n
  | _ => rintro ⟨⟩

theorem bindFloat_ne_list (x : Double) (t : DataType) : bindFloat x t ≠ .error .list := by
  cases t with
  | numeric =>
    rw [bindFloat]
    split <;> rintro ⟨⟩
  | _ => rintro ⟨⟩

theorem bindRead_ne_list {α : Type} {e : BindError} (he : e ≠ .list) (encode : α → List UInt8)
    (o : Option α) : bindRead e encode o ≠ .error .list := by
  cases o with
  | none => exact fun h => he (Except.error.inj h)
  | some a => rintro ⟨⟩

theorem bindText_ne_list (s : String) (t : DataType) : bindText s t ≠ .error .list := by
  have json (version : List UInt8) : bindJson s version ≠ .error .list := by
    rw [bindJson]
    split <;> rintro ⟨⟩
  cases t with
  | json | jsonb => exact json _
  | int2 | int4 | int8 =>
    rw [bindText]
    split
    next n _ => exact bindInt_ne_list n _
    next => rintro ⟨⟩
  | uuid | numeric | timestamptz | timestamp | date | time => exact bindRead_ne_list (by decide) _ _
  | custom schema name =>
    simp only [bindText]
    split <;> rintro ⟨⟩
  | _ => rintro ⟨⟩

/-- Nothing but a list is refused for being one. -/
theorem encode_ne_list {v : Value} (h : v.isList = false) (t : DataType) :
    encode v t ≠ .error .list := by
  have whole {b : Bound} (hb : b ≠ .error .list) : some <$> b ≠ .error .list := by
    cases b with
    | error e => exact fun he => hb (congrArg Except.error (Except.error.inj he))
    | ok bs => rintro ⟨⟩
  cases v with
  | null => rintro ⟨⟩
  | bool b =>
    refine whole ?_
    rw [bindBool]
    split <;> rintro ⟨⟩
  | int n => exact whole (bindInt_ne_list n t)
  | float x => exact whole (bindFloat_ne_list x t)
  | text s => exact whole (bindText_ne_list s t)
  | bytes bs =>
    refine whole ?_
    rw [bindBytes]
    split <;> rintro ⟨⟩
  | list items => cases h

end Postgres

theorem Bindable.of_flat {params : List Value} (h : ∀ v ∈ params, v.isList = false) :
    Bindable params where
  flat := h
  mysql := MySql.exists_mapM_ofValue? h
  sqlite := Sqlite.exists_mapM_bind h
  postgres v hv := Postgres.encode_ne_list (h v hv)

/-! ### Calls of a driver -/

/-- The record goes on with calls that run statements on such parameters only. -/
def Grows (ok : List Value → Prop) (log log' : List DriverEvent) : Prop :=
  ∃ calls, log' = log ++ calls ∧
    ∀ k sql params f, .on k (.execute sql params f) ∈ calls → ok params

section Grows

variable {ok : List Value → Prop} {log log' log'' : List DriverEvent}

theorem Grows.refl (log : List DriverEvent) : Grows ok log log :=
  ⟨[], (List.append_nil log).symm, fun _ _ _ _ h => absurd h List.not_mem_nil⟩

theorem Grows.trans (h : Grows ok log log') (h' : Grows ok log' log'') : Grows ok log log'' := by
  obtain ⟨calls, rfl, hcalls⟩ := h
  obtain ⟨calls', rfl, hcalls'⟩ := h'
  refine ⟨calls ++ calls', List.append_assoc .., ?_⟩
  intro k sql params f hmem
  rcases List.mem_append.1 hmem with hmem | hmem
  · exact hcalls k sql params f hmem
  · exact hcalls' k sql params f hmem

/-- A call that runs no statement. -/
theorem Grows.other {e : DriverEvent} (h : ∀ k sql params f, e ≠ .on k (.execute sql params f)) :
    Grows ok log (log ++ [e]) := by
  refine ⟨[e], rfl, ?_⟩
  intro k sql params f hmem
  exact absurd (List.mem_singleton.1 hmem).symm (h k sql params f)

theorem Grows.execute {params : List Value} (h : ok params) (k : Nat) (sql : String)
    (f : Option DriverError) : Grows ok log (log ++ [.on k (.execute sql params f)]) := by
  refine ⟨_, rfl, ?_⟩
  intro k' sql' params' f' hmem
  cases List.mem_singleton.1 hmem
  exact h

end Grows

section Pools

variable {σ P H : Type} {ok : List Value → Prop}

open PoolDriver

theorem Pooled.grows_connect (d : PoolDriver σ P H) (m : Pooled (Nat × P) (Nat × H))
    (w : Recorded σ) : Grows ok w.log (connect d.recorded m w).next.2.log := by
  obtain ⟨_ | p, owns, x⟩ := m
  · simp only [connect, recorded_openPool]
    rcases d.openPool w.world with ⟨e | p, v⟩
    · exact .other (by simp)
    · exact .other (by simp)
  · exact .refl w.log

/-- A handle may be taken before the statement, and is given back behind it. -/
theorem Pooled.grows_query (d : PoolDriver σ P H) (m : Pooled (Nat × P) (Nat × H)) (w : Recorded σ)
    (sql : String) {params : List Value} (h : ok params) :
    Grows ok w.log (query d.recorded sql params m w).next.2.log := by
  obtain ⟨_ | p, owns, _ | x⟩ := m
  · exact .refl w.log
  · exact .refl w.log
  · simp only [query, run, recorded_acquire]
    rcases d.acquire p.2 w.world with ⟨e | x, v⟩
    · exact .other (by simp)
    · -- The handle is new, so that the statement is the second of three calls.
      have hacquire : Grows ok w.log (w.note v (.on w.nextHandle (.acquire p.1))).log :=
        .other (by simp)
      simp only [recorded_execute, recorded_release, Recorded.world_note]
      rcases d.execute x sql params v with ⟨e | raw, u⟩
      · exact hacquire.trans ((Grows.execute h _ sql _).trans (.other (by simp)))
      · exact hacquire.trans ((Grows.execute h _ sql _).trans (.other (by simp)))
  · simp only [query, run, recorded_execute]
    rcases d.execute x.2 sql params w.world with ⟨e | raw, v⟩
    · exact .execute h x.1 sql _
    · exact .execute h x.1 sql _

end Pools

section Engines

variable {σ : Type} {ok : List Value → Prop}

open Engine

theorem Embedded.grows_connect (d : Engine σ) (m : Embedded) (w : Recorded σ) :
    Grows ok w.log (connect d.recorded m w).next.2.log := by
  obtain ⟨path, _ | _, i⟩ := m
  · simp only [connect, recorded_openPath]
    rcases d.openPath path w.world with ⟨e | u, v⟩
    · exact .other (by simp [DriverEvent.ofOpening, failure?])
    · exact .other (by simp [DriverEvent.ofOpening, failure?])
  · exact .refl w.log

theorem Embedded.grows_query (d : Engine σ) (m : Embedded) (w : Recorded σ) (sql : String)
    {params : List Value} (h : ok params) :
    Grows ok w.log (query d.recorded sql params m w).next.2.log := by
  obtain ⟨path, _ | _, i⟩ := m
  · exact .refl w.log
  · simp only [query, recorded_execute]
    rcases d.execute sql params w.world with ⟨e | raw, v⟩
    · exact .execute h 0 sql _
    · exact .execute h 0 sql _

end Engines

/-! ### Executions -/

/-- Connecting runs no statement and keeps the style of placeholders, and of the statements that a
manager is asked for it runs no others. -/
structure Manager.Records {μ : Type} (M : Manager μ) (log : μ → List DriverEvent) : Prop where
  placeholder : ∀ m, M.placeholder (M.connect m).next = M.placeholder m
  connect : ∀ ok m, Grows ok (log m) (log (M.connect m).next)
  query : ∀ (ok : List Value → Prop) sql params m, ok params →
    Grows ok (log m) (log (M.query sql params m).next)

theorem Pooled.records {σ P H : Type} (d : PoolDriver σ P H) :
    (manager d.recorded).Records fun s => s.2.log where
  placeholder _ := rfl
  connect _ s := grows_connect d s.1 s.2
  query _ sql _ s := grows_query d s.1 s.2 sql

theorem Embedded.records {σ : Type} (d : Engine σ) :
    (manager d.recorded).Records fun s => s.2.log where
  placeholder _ := rfl
  connect _ s := grows_connect d s.1 s.2
  query _ sql _ s := grows_query d s.1 s.2 sql

namespace Client

variable {μ : Type} {M : Manager μ} {log : μ → List DriverEvent} {c : Client μ}

/-- On every course the statement is the compiled query, if there is one. -/
theorem Course.grows (hM : M.Records log) {rs : List Request}
    {o : Outcome (Client μ) QueryResult} (h : Course M c rs o) :
    Grows Bindable (log c.manager) (log o.next.manager) := by
  have connects {rs : List Request} {es : List Event} {m : μ} (h : Connects M c rs es m) :
      Grows Bindable (log c.manager) (log m) := by
    cases h with
    | already => exact .refl _
    | now => exact hM.connect Bindable c.manager
  cases h with
  | unconnected => exact hM.connect Bindable c.manager
  | uncompiled e h => exact connects h
  | @sent _ _ m b h hb =>
    have hflat := QueryState.flat_compile (QueryState.compile_of_build hb)
    exact (connects h).trans (hM.query Bindable b.sql b.params m (.of_flat hflat))

theorem grows_execute (hM : M.Records log) (c : Client μ) :
    Grows Bindable (log c.manager) (log (c.execute M).next.manager) :=
  (executeResult_course c (hM.placeholder c.manager)).grows hM

end Client

/-- No parameter of a query that compiles is a list. So whatever driver or engine there is, and
whatever state the client and the manager are in, an execution runs statements with parameters only
of which no codec refuses one for being a list. -/
theorem execute_binds {σ P H : Type} :
    (∀ (q : QueryState) (p : Placeholder) (b : BuiltQuery), q.compile p = .ok b →
        (∀ v ∈ b.params, v.isList = false) ∧ Bindable b.params) ∧
      (∀ (d : PoolDriver σ P H) (c : Client (Pooled.RecordedWorld σ P H)),
        Grows Bindable c.manager.2.log (c.execute (Pooled.manager d.recorded)).next.manager.2.log) ∧
      ∀ (e : Engine σ) (c : Client (Embedded.World (Recorded σ))),
        Grows Bindable c.manager.2.log
          (c.execute (Embedded.manager e.recorded)).next.manager.2.log := by
  refine ⟨?_, ?_, ?_⟩
  · intro q p b h
    have hflat := QueryState.flat_compile h
    exact ⟨hflat, .of_flat hflat⟩
  · exact fun d c => c.grows_execute (Pooled.records d)
  · exact fun e c => c.grows_execute (Embedded.records e)

/-- The two bounds in a list are parameters of their own. A client without a connection makes four
calls: one for a pool, and three with a handle, of which one runs the statement. -/
theorem execute_binds_between :
    (∃ b, QueryState.compile .dollar
        ⟨"t", .select { conditions := [.of .and "a" .between (.list [.int 1, .int 2])] }⟩ = .ok b ∧
      b.params.length = 2 ∧ Bindable b.params) ∧
      ∃ calls, calls.length = 4 ∧
        ((Client.mk (Pooled.recorded none {}) ⟨"t", .delete {}⟩ {}).execute
          (Pooled.manager MySql.driver.recorded)).next.manager.2.log = calls ∧
        ∀ k sql params f, .on k (.execute sql params f) ∈ calls → Bindable params := by
  obtain ⟨compiled, pools, -⟩ := @execute_binds MySql.Server Unit Unit
  have hbound := compiled
    ⟨"t", .select { conditions := [.of .and "a" .between (.list [.int 1, .int 2])] }⟩ .dollar _ rfl
  refine ⟨⟨_, rfl, rfl, hbound.2⟩, ?_⟩
  obtain ⟨calls, hlog, hcalls⟩ :=
    pools MySql.driver (Client.mk (Pooled.recorded none {}) ⟨"t", .delete {}⟩ {})
  have hcount := congrArg List.length hlog
  refine ⟨calls, hcount.symm.trans ?_, hlog, hcalls⟩
  decide +kernel

end FluentSql
