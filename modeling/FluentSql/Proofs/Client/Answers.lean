import FluentSql.Proofs.Client.Execution
import FluentSql.Proofs.Connection.Failing
import FluentSql.Proofs.Postgres.Tags
import FluentSql.Proofs.Query.Accepted
import FluentSql.Proofs.Query.Leading

/-! What a client gets back of a query. A compiled query begins with the word of its kind and a
blank, whatever the names in it are, so that a driver tells from the text whether the query reads.
Drivers give the rows of a statement that reads, and of another one no rows but the number of rows
that it affected. So the answer to a query goes with its kind, `executeResult_reports`. -/

namespace FluentSql

/-! ### The first word of a query -/

namespace Access

/-- No white space, comment or parenthesis stands before the word, and no keyword begins with it but
`SELECT`. -/
theorem ofSql_of_kind (k : StatementKind) {sql : String} {rest : List Char}
    (h : sql.toList = k.sql.toList ++ ' ' :: rest) :
    ofSql sql = if k = .select then .read else .write := by
  have hstrip : strip sql.toList = k.sql.toList ++ ' ' :: rest := by
    rw [h]
    cases k with
    | select | insert | update | delete => exact strip_eq _
  -- The blank ends the word, so that no longer keyword can begin with it.
  rw [ofSql, hstrip]
  cases k with
  | select | insert | update | delete => rfl

end Access

/-- The text of a compiled query is told to read if the query is one for rows. -/
theorem QueryState.ofSql_compile {p : Placeholder} {q : QueryState} {b : BuiltQuery}
    (h : q.compile p = .ok b) :
    Access.ofSql b.sql = if q.kind = .select then .read else .write := by
  obtain ⟨-, rfl⟩ := accepted_of_compile h
  obtain ⟨more, rest, hq⟩ := Writer.pieces.query_eq_kind q
  have hsql : (Piece.lay p (Writer.pieces.query q)).sql =
      q.kind.sql ++ (" " ++ more) ++ Piece.layFrom p 0 rest := by
    rw [hq]
    rfl
  have hchars : (Piece.lay p (Writer.pieces.query q)).sql.toList =
      q.kind.sql.toList ++ ' ' :: (more.toList ++ (Piece.layFrom p 0 rest).toList) := by
    simp [hsql]
  exact Access.ofSql_of_kind q.kind hchars

/-! ### What drivers report -/

/-- The output that goes with an access: as many rows as are counted, or no row and a number of rows
affected that is told so. -/
def RawOutput.Reports (raw : RawOutput) (told : UInt64 → Prop) : Access → Prop
  | .read => raw.count = UInt64.ofNat raw.rows.length
  | .write => raw.rows = [] ∧ told raw.count

/-- As many rows are counted as are read. -/
theorem RawOutput.ofRows_reports {ρ ε : Type} {decode : ρ → Except ε Record}
    {message : ε → String} {rows : List ρ} {raw : RawOutput}
    (h : ofRows decode message rows = .ok raw) {told : UInt64 → Prop} :
    raw.Reports told .read := by
  rw [ofRows] at h
  split at h
  next => cases h; rfl
  next => cases h

/-- Calls whose output goes with the text of the statement; `told` is what a world tells of the rows
that a statement affects in it. -/
def Reporting {σ : Type} (execute : String → List Value → DriverCall σ RawOutput)
    (told : String → List Value → σ → UInt64 → Prop) : Prop :=
  ∀ sql params w raw, (execute sql params w).1 = .ok raw →
    raw.Reports (told sql params w) (Access.ofSql sql)

namespace Postgres

/-- The reply to the next statement; an empty one when there is none. -/
def Server.reply (s : Server) : Reply :=
  s.replies.headD {}

theorem Server.fst_take (s : Server) : s.take.1 = s.reply := by
  obtain ⟨replies, failures, log⟩ := s
  cases replies <;> rfl

theorem Reply.output_reports {r : Reply} {a : Access} {raw : RawOutput} (h : r.output a = .ok raw) :
    raw.Reports (Tells r.tag) a := by
  cases a with
  | read => exact RawOutput.ofRows_reports h
  | write =>
    cases h
    exact ⟨rfl, tells_iff.2 rfl⟩

/-- A statement that succeeds gives what the next reply comes to. -/
theorem output_of_execute {sql : String} {params : List Value} {s : Server} {raw : RawOutput}
    (h : (execute sql params s).1 = .ok raw) : s.reply.output (Access.ofSql sql) = .ok raw := by
  have hreply : (s.see ("prepare " ++ sql)).take.1 = s.reply := Server.fst_take _
  rw [← hreply]
  rw [execute] at h
  rcases hs : (s.see ("prepare " ++ sql)).take with ⟨r, t⟩
  rw [hs] at h
  simp only at h ⊢
  split at h
  next => cases h
  next =>
    split at h
    next => cases h
    next =>
      split at h
      next => cases h
      next => exact h

theorem execute_reporting : Reporting execute fun _ _ s => Tells s.reply.tag := by
  intro sql params s raw h
  exact Reply.output_reports (output_of_execute h)

end Postgres

namespace MySql

/-- The reply to the next statement; an empty one when there is none. -/
def Server.reply (s : Server) : Reply :=
  s.replies.headD {}

theorem Server.fst_take (s : Server) : s.take.1 = s.reply := by
  obtain ⟨replies, failures, seen, log⟩ := s
  cases replies <;> rfl

/-- The number of rows that a reply tells were affected; a reply with columns counts none. -/
def Reply.Tells (r : Reply) (n : UInt64) : Prop :=
  (r.columns = [] → n = r.affected) ∧ (r.columns ≠ [] → n = 0)

theorem Reply.output_reports {r : Reply} {a : Access} {raw : RawOutput} (h : r.output a = .ok raw) :
    raw.Reports r.Tells a := by
  cases a with
  | read => exact RawOutput.ofRows_reports h
  | write =>
    cases h
    refine ⟨rfl, fun hc => ?_, fun hc => ?_⟩
    · exact if_pos (List.isEmpty_iff.2 hc)
    · exact if_neg (mt List.isEmpty_iff.1 hc)

/-- A statement that succeeds gives what the next reply comes to. -/
theorem output_of_execute {sql : String} {params : List Value} {s : Server} {raw : RawOutput}
    (h : (execute sql params s).1 = .ok raw) : s.reply.output (Access.ofSql sql) = .ok raw := by
  rw [← s.fst_take]
  rw [execute] at h
  split at h
  next =>
    simp only [send] at h
    split at h
    next => split at h <;> cases h
    next => exact h
  next => cases h

theorem execute_reporting : Reporting execute fun _ _ s => s.reply.Tells := by
  intro sql params s raw h
  exact Reply.output_reports (output_of_execute h)

end MySql

namespace Sqlite

variable {σ : Type} {runs : Runs σ}

/-- The number of rows that a library says a text touches, run with its parameters bound. -/
def Touches (runs : Runs σ) (sql : String) (params : List Value) (w : σ) (n : UInt64) : Prop :=
  ∃ bound rows touched, params.mapM bind = .ok bound ∧
    (runs sql bound w).1 = .ok (rows, touched) ∧ n = UInt64.ofNat touched

/-- A text that succeeds gives what its rows come to, with its parameters bound. -/
theorem output_of_executeBy {sql : String} {params : List Value} {w : σ} {raw : RawOutput}
    (h : (executeBy runs sql params w).1 = .ok raw) :
    ∃ bound result, params.mapM bind = .ok bound ∧ (runs sql bound w).1 = .ok result ∧
      output (Access.ofSql sql) result = .ok raw := by
  rw [executeBy] at h
  cases hb : params.mapM bind with
  | error e =>
    rw [hb] at h
    cases h
  | ok bound =>
    rw [hb] at h
    simp only at h
    cases hr : (runs sql bound w).1 with
    | error e =>
      rw [hr] at h
      cases h
    | ok result =>
      rw [hr] at h
      exact ⟨bound, result, rfl, hr, h⟩

theorem executeBy_reporting (runs : Runs σ) : Reporting (executeBy runs) (Touches runs) := by
  intro sql params w raw h
  obtain ⟨bound, ⟨rows, touched⟩, hb, hr, hraw⟩ := output_of_executeBy h
  cases ha : Access.ofSql sql with
  | read =>
    rw [ha] at hraw
    exact RawOutput.ofRows_reports hraw
  | write =>
    rw [ha] at hraw
    cases hraw
    exact ⟨rfl, bound, rows, touched, hb, hr, rfl⟩

end Sqlite

/-! ### What managers answer -/

/-- Managers whose answers go with the text of the statement. -/
def Manager.Answering {μ : Type} (M : Manager μ)
    (told : String → List Value → μ → UInt64 → Prop) : Prop :=
  ∀ sql params m r, (M.query sql params m).result = .ok r →
    ∃ raw, r = .ofRaw sql params raw ∧ raw.Reports (told sql params m) (Access.ofSql sql)

section Managers

variable {σ P H : Type} {sql : String} {params : List Value} {w : σ} {r : QueryResult}
  {raw : RawOutput} {told : String → List Value → σ → UInt64 → Prop}

namespace Pooled

variable {d : PoolDriver σ P H} {m : Pooled P H}

/-- An answer is what a statement on the pool gave. -/
theorem run_of_query (h : (query d sql params m w).result = .ok r) :
    ∃ pool raw, (run d m pool sql params w).1 = .ok raw ∧ r = .ofRaw sql params raw := by
  obtain ⟨_ | pool, owns, x⟩ := m
  · cases h
  · simp only [query] at h
    rcases hq : run d ⟨some pool, owns, x⟩ pool sql params w with ⟨e | raw, v⟩
    · rw [hq] at h
      cases h
    · rw [hq] at h
      cases h
      exact ⟨pool, raw, congrArg Prod.fst hq, rfl⟩

/-- A handle is taken for the statement without a change of the world. -/
theorem execute_of_run (hd : d.Lends) {pool : P} (h : (run d m pool sql params w).1 = .ok raw) :
    ∃ handle, (d.execute handle sql params w).1 = .ok raw := by
  rw [run] at h
  cases ht : m.transaction with
  | some handle =>
    rw [ht] at h
    exact ⟨handle, h⟩
  | none =>
    obtain ⟨handle, ha⟩ := hd.acquire pool w
    simp only [ht, ha] at h
    exact ⟨handle, h⟩

theorem answering (hd : d.Lends) (hx : ∀ h, Reporting (d.execute h) told) :
    (manager d).Answering fun sql params m => told sql params m.2 := by
  intro sql params m r hr
  obtain ⟨pool, raw, hrun, rfl⟩ := run_of_query hr
  obtain ⟨handle, hraw⟩ := execute_of_run hd hrun
  exact ⟨raw, rfl, hx handle sql params m.2 raw hraw⟩

theorem view_connect {ρ : Type} (view : σ → ρ) (hopen : ∀ w, view (d.openPool w).2 = view w)
    (m : Pooled P H) (w : σ) : view (connect d m w).next.2 = view w := by
  obtain ⟨_ | pool, owns, x⟩ := m
  · have hw := hopen w
    simp only [connect]
    rcases ho : d.openPool w with ⟨e | pool, v⟩
    · rw [ho] at hw
      exact hw
    · rw [ho] at hw
      exact hw
  · rfl

end Pooled

namespace Embedded

variable {d : Engine σ} {m : Embedded}

theorem execute_of_query (h : (query d sql params m w).result = .ok r) :
    ∃ raw, (d.execute sql params w).1 = .ok raw ∧ r = .ofRaw sql params raw := by
  rw [query] at h
  split at h
  next =>
    rcases hq : d.execute sql params w with ⟨e | raw, v⟩
    · rw [hq] at h
      cases h
    · rw [hq] at h
      cases h
      exact ⟨raw, rfl, rfl⟩
  next => cases h

theorem answering (hx : Reporting d.execute told) :
    (manager d).Answering fun sql params m => told sql params m.2 := by
  intro sql params m r hr
  obtain ⟨raw, hraw, rfl⟩ := execute_of_query hr
  exact ⟨raw, rfl, hx sql params m.2 raw hraw⟩

end Embedded

end Managers

/-! ### What clients get -/

theorem exists_of_isOk {ε α : Type} {x : Except ε α} (h : x.isOk = true) : ∃ a, x = .ok a := by
  cases x with
  | error e => cases h
  | ok a => exact ⟨a, rfl⟩

/-- An answer that goes with a kind of query: as many rows as are counted of one for rows, and of
another one no row, and a number of rows affected that is told so. -/
structure QueryResult.Answers (kind : StatementKind) (told : UInt64 → Prop) (r : QueryResult) :
    Prop where
  read : kind = .select → r.count = UInt64.ofNat r.rows.length
  write : kind ≠ .select → r.rows = [] ∧ told r.count

namespace Client

variable {μ : Type} {M : Manager μ} {c : Client μ} {rs : List Request} {es : List Event} {m : μ}

theorem Connects.manager_ensureConnected (h : Connects M c rs es m) :
    (c.ensureConnected M).next.manager = m := by
  cases h with
  | already hc =>
    have he : c.ensureConnected M = ⟨.ok (), c, []⟩ := if_pos hc
    rw [he]
  | now hf =>
    have he : c.ensureConnected M = c.connect M := if_neg (Bool.eq_false_iff.1 hf)
    rw [he]
    rfl

/-- An answer is that of the manager, once connected, to the compiled query. -/
theorem Course.query_of_ok {o : Outcome (Client μ) QueryResult} {r : QueryResult}
    (h : Course M c rs o) (hr : o.result = .ok r) :
    ∃ b, c.state.compile (M.placeholder c.manager) = .ok b ∧
      (M.query b.sql b.params (c.ensureConnected M).next.manager).result = .ok r := by
  cases h with
  | unconnected => cases hr
  | uncompiled => cases hr
  | @sent _ _ m b h hb =>
    refine ⟨b, QueryState.compile_of_build hb, ?_⟩
    rw [h.manager_ensureConnected]
    cases hq : (M.query b.sql b.params m).result with
    | error e =>
      rw [hq] at hr
      cases hr
    | ok r' =>
      rw [hq] at hr
      cases hr
      rfl

/-- What goes with the text of a compiled query goes with the kind of the query. -/
theorem answers_of_answering {told : String → List Value → μ → UInt64 → Prop}
    (hM : M.Answering told) (hp : ∀ m, M.placeholder (M.connect m).next = M.placeholder m)
    {r : QueryResult} (hr : (c.executeResult M).result = .ok r) :
    r.Answers c.state.kind (told r.sql r.params (c.ensureConnected M).next.manager) := by
  obtain ⟨b, hb, hq⟩ := (executeResult_course c (hp c.manager)).query_of_ok hr
  obtain ⟨raw, rfl, hraw⟩ := hM _ _ _ _ hq
  rw [QueryState.ofSql_compile hb] at hraw
  refine ⟨fun hk => ?_, fun hk => ?_⟩
  · rw [if_pos hk] at hraw
    exact hraw
  · rw [if_neg hk] at hraw
    exact hraw

/-- What opening a pool leaves of a world, a client that connects leaves of it. -/
theorem view_ensureConnected {σ P H ρ : Type} {d : PoolDriver σ P H} (view : σ → ρ)
    (hopen : ∀ w, view (d.openPool w).2 = view w) (c : Client (Pooled.World σ P H)) :
    view (c.ensureConnected (Pooled.manager d)).next.manager.2 = view c.manager.2 := by
  by_cases hc : (Pooled.manager d).isConnected c.manager
  · have he : c.ensureConnected (Pooled.manager d) = ⟨.ok (), c, []⟩ := if_pos hc
    rw [he]
  · have he : c.ensureConnected (Pooled.manager d) = c.connect (Pooled.manager d) := if_neg hc
    rw [he]
    exact Pooled.view_connect view hopen c.manager.1 c.manager.2

end Client

/-- The text of every query that compiles is told to read if the query is one for rows, whatever its
names are. So a client in any state that gets an answer gets as many rows as are counted of such a
query, and of another one no rows, and the number of rows affected. With MySQL that is the number in
the server's next reply, with PostgreSQL the one in the tag of the next reply, and with SQLite the
number of rows that the library says it touched, whatever library runs the text. -/
theorem executeResult_reports :
    (∀ (q : QueryState) (p : Placeholder) (b : BuiltQuery), q.compile p = .ok b →
        (Access.ofSql b.sql = .read ↔ q.kind = .select)) ∧
      (∀ (c : Client (Pooled.World MySql.Server Unit Unit)) (r : QueryResult),
        (c.executeResult (Pooled.manager MySql.driver)).result = .ok r →
          r.Answers c.state.kind c.manager.2.reply.Tells) ∧
      (∀ (c : Client (Pooled.World Postgres.Server Unit Unit)) (r : QueryResult),
        (c.executeResult (Pooled.manager Postgres.driver)).result = .ok r →
          r.Answers c.state.kind (Postgres.Tells c.manager.2.reply.tag)) ∧
      ∀ {σ : Type} (d : Engine σ) (runs : Sqlite.Runs σ), d.execute = Sqlite.executeBy runs →
        ∀ (c : Client (Embedded.World σ)) (r : QueryResult),
          (c.executeResult (Embedded.manager d)).result = .ok r →
            r.Answers c.state.kind (Sqlite.Touches runs r.sql r.params
              (c.ensureConnected (Embedded.manager d)).next.manager.2) := by
  refine ⟨?_, ?_, ?_, ?_⟩
  · intro q p b h
    rw [QueryState.ofSql_compile h]
    by_cases hk : q.kind = .select
    · rw [if_pos hk]
      exact iff_of_true rfl hk
    · rw [if_neg hk]
      refine iff_of_false ?_ hk
      rintro ⟨⟩
  · intro c r hr
    have hanswers := Client.answers_of_answering
      (Pooled.answering MySql.lends_driver fun _ => MySql.execute_reporting) (fun _ => rfl) hr
    rwa [Client.view_ensureConnected MySql.Server.reply fun _ => rfl] at hanswers
  · intro c r hr
    have hanswers := Client.answers_of_answering
      (Pooled.answering Postgres.lends_driver fun _ => Postgres.execute_reporting) (fun _ => rfl) hr
    rwa [Client.view_ensureConnected Postgres.Server.reply fun _ => rfl] at hanswers
  · intro σ d runs hd c r hr
    have hx : Reporting d.execute (Sqlite.Touches runs) := hd ▸ Sqlite.executeBy_reporting runs
    exact Client.answers_of_answering (Embedded.answering hx) (fun _ => rfl) hr

/-- Three rows are deleted from a table whose name would begin a statement that reads, one row is
inserted, and every row of a table is updated, of which there are two; a query for rows reads a table
whose name would begin one that writes. -/
theorem executeResult_reports_writes :
    let c : Client (Pooled.World MySql.Server Unit Unit) :=
      ⟨({}, { replies := [{ affected := 3 }] }), ⟨"(SELECT", .delete {}⟩, {}⟩
    let p : Client (Pooled.World Postgres.Server Unit Unit) :=
      ⟨({}, { replies := [{ params := [.int8], tag := "INSERT 0 1" }] }),
        ⟨"t", .insert (.ofPairs [("a", .int 5)])⟩, {}⟩
    let runs : Sqlite.Runs Nat := fun _ _ n => (.ok ([], n), n)
    let d : Engine Nat :=
      { name := "sqlite", openPath := fun _ w => (.ok (), w), execute := Sqlite.executeBy runs
        begin := fun w => (.ok (), w), commit := fun w => (.ok (), w)
        rollback := fun w => (.ok (), w), close := fun w => (.ok (), w) }
    let s : Client (Embedded.World Nat) :=
      ⟨({ path := ":memory:" }, 2), ⟨"t", .update { payload := .ofPairs [("a", .int 5)] }⟩, {}⟩
    (∃ b, QueryState.compile .dollar ⟨"/* */ DELETE", .select {}⟩ = .ok b ∧
        Access.ofSql b.sql = .read) ∧
      (∃ r, (c.executeResult (Pooled.manager MySql.driver)).result = .ok r ∧
        r.rows = [] ∧ r.count = 3) ∧
      (∃ r, (p.executeResult (Pooled.manager Postgres.driver)).result = .ok r ∧
        r.rows = [] ∧ r.count = 1) ∧
      ∃ r, (s.executeResult (Embedded.manager d)).result = .ok r ∧ r.rows = [] ∧ r.count = 2 := by
  intro c p runs d s
  obtain ⟨kinds, viaMySql, viaPostgres, viaSqlite⟩ := executeResult_reports
  refine ⟨⟨_, rfl, (kinds ⟨"/* */ DELETE", .select {}⟩ .dollar _ rfl).2 rfl⟩, ?_, ?_, ?_⟩
  · have hok : (c.executeResult (Pooled.manager MySql.driver)).result.isOk = true := by
      decide +kernel
    obtain ⟨r, hr⟩ := exists_of_isOk hok
    obtain ⟨hrows, hcount, -⟩ := (viaMySql c r hr).write (by decide)
    exact ⟨r, hr, hrows, hcount rfl⟩
  · have hok : (p.executeResult (Pooled.manager Postgres.driver)).result.isOk = true := by
      decide +kernel
    obtain ⟨r, hr⟩ := exists_of_isOk hok
    obtain ⟨hrows, htag⟩ := (viaPostgres p r hr).write (by decide)
    have hone : Postgres.affected "INSERT 0 1" = 1 := by decide
    exact ⟨r, hr, hrows, (Postgres.tells_iff.1 htag).symm.trans hone⟩
  · have hok : (s.executeResult (Embedded.manager d)).result.isOk = true := by
      decide +kernel
    obtain ⟨r, hr⟩ := exists_of_isOk hok
    obtain ⟨hrows, bound, rows, touched, -, hruns, hcount⟩ :=
      (viaSqlite d runs rfl s r hr).write (by decide)
    cases hruns
    exact ⟨r, hr, hrows, hcount⟩

end FluentSql
