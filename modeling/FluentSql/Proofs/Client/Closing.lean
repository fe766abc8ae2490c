import FluentSql.Connection.Mock
import FluentSql.Proofs.Client.Transaction
import FluentSql.Sqlite.Engine

/-! What a transaction leaves open. A manager of a pool lets the handle of its transaction go
whatever comes of the commit or the rollback, and is afterwards as it was before. A manager of an
embedded engine has no handle to let go: it keeps its transaction where the commit or the rollback
fails, and then the whole fails too, `transaction_closes`. -/

namespace FluentSql

variable {σ α : Type}

/-! ### Managers of an embedded engine -/

/-- The call that ends a transaction behind a body with this result. -/
def Engine.closing (d : Engine σ) : Except Error α → DriverCall σ Unit
  | .ok _ => d.commit
  | .error _ => d.rollback

namespace Embedded

variable (d : Engine σ)

theorem fst_query (sql : String) (params : List Value) (m : Embedded) (w : σ) :
    (query d sql params m w).next.1 = m := by
  rw [query]
  split
  · rcases d.execute sql params w with ⟨e | raw, v⟩ <;> rfl
  · rfl

/-- A transaction that has begun has a connection and a flag. -/
theorem fst_begin_of_ok {m : Embedded} {w : σ} (h : (begin d m w).result = .ok ()) :
    m.isConnected ∧ (begin d m w).next.1 = { m with inTransaction := true } := by
  obtain ⟨path, _ | _, _ | _⟩ := m
  · cases h
  · cases h
  · simp only [begin, control] at h ⊢
    rcases hb : d.begin w with ⟨e | u, v⟩
    · rw [hb] at h
      cases h
    · exact ⟨trivial, rfl⟩
  · cases h

/-- The flag goes with a call that ends the transaction. It stays where that call fails, and then
the whole fails too. -/
theorem finish_closing (r : Except Error α) {c : Client (World σ)} {path : String}
    (hm : c.manager.1 = ⟨path, true, true⟩) :
    let o := (Client.bracket (manager d)).finish r c
    ((d.closing r c.manager.2).1 = .ok () ∧ o.next.inTransaction (manager d) = false) ∨
      ∃ e e', (d.closing r c.manager.2).1 = .error e ∧
        o.next.inTransaction (manager d) = true ∧ o.result = .error e' := by
  obtain ⟨⟨_, w⟩, q, options⟩ := c
  subst hm
  cases r with
  | ok a =>
    simp only [Bracket.finish, Client.bracket, Client.commit, Client.onManager, manager, commit,
      control, Engine.closing]
    rcases d.commit w with ⟨e | u, v⟩
    · exact .inr ⟨e, _, rfl, rfl, rfl⟩
    · exact .inl ⟨rfl, rfl⟩
  | error e =>
    simp only [Bracket.finish, Client.bracket, Client.rollback, Client.onManager, manager, rollback,
      control, Engine.closing]
    rcases d.rollback w with ⟨r | u, v⟩
    · exact .inr ⟨r, _, rfl, rfl, rfl⟩
    · exact .inl ⟨rfl, rfl⟩

theorem transaction_closing (body : Body α) {c : Client (World σ)}
    (hb : (c.begin (manager d)).result = .ok ()) :
    let M := manager d
    let ran := body.run M (c.begin M).next
    let o := (Client.bracket M).transaction (body.run M) c
    (o.next.inTransaction M = false ↔ (d.closing ran.result ran.next.manager.2).1 = .ok ()) ∧
      (o.next.inTransaction M = true → ∃ e, o.result = .error e) := by
  intro M ran o
  obtain ⟨hc, hn⟩ := fst_begin_of_ok d (w := c.manager.2) hb
  -- The body leaves the flag as the begin has set it.
  have hran : ran.next.manager.1 = ⟨c.manager.1.path, true, true⟩ := by
    refine body.fst_run (N := M) (fun _ => rfl) (fun sql params w => fst_query d ..) ?_
    exact hn.trans (by rw [hc])
  have ho : o = ((Client.bracket M).finish ran.result ran.next).after
      ((c.begin M).events ++ ran.events) := Bracket.transaction_of_ok _ _ hb
  have hi : o.next.inTransaction M =
      ((Client.bracket M).finish ran.result ran.next).next.inTransaction M := by
    rw [ho]
    rfl
  rcases finish_closing d ran.result hran with ⟨hok, hf⟩ | ⟨e, e', he, ht, hr⟩
  · simp [hi, hok, M, hf]
  · refine ⟨by simp [hi, he, M, ht], fun _ => ⟨e', ?_⟩⟩
    rw [ho]
    exact hr

end Embedded

/-- A transaction that a manager of a pool has begun is not open behind its body, whatever the
driver answers. One that a manager of an embedded engine has begun is open exactly if the commit
behind a body that succeeded, or the rollback behind one that failed, has failed; then the whole has
failed too. -/
theorem transaction_closes (body : Body α) :
    (∀ {σ P H : Type} (d : PoolDriver σ P H) (c : Client (Pooled.World σ P H)),
      let M := Pooled.manager d
      (c.begin M).result = .ok () →
        ((Client.bracket M).transaction (body.run M) c).next.inTransaction M = false) ∧
      ∀ {σ : Type} (d : Engine σ) (c : Client (Embedded.World σ)),
        let M := Embedded.manager d
        let ran := body.run M (c.begin M).next
        let o := (Client.bracket M).transaction (body.run M) c
        (c.begin M).result = .ok () →
          (o.next.inTransaction M = false ↔
              (d.closing ran.result ran.next.manager.2).1 = .ok ()) ∧
            (o.next.inTransaction M = true → ∃ e, o.result = .error e) := by
  refine ⟨?_, fun d c hb => Embedded.transaction_closing d body hb⟩
  intro σ P H d c M hb
  have hk : ((Client.bracket M).transaction (body.run M) c).next.inTransaction M =
      c.manager.1.inTransaction := congrArg Pooled.inTransaction (Pooled.fst_transaction d body c)
  rcases Pooled.fst_begin d c.manager.1 c.manager.2 with ⟨e, hr, -⟩ | ⟨-, ht, -⟩
  · cases hr.symm.trans hb
  · rw [hk, Pooled.inTransaction, ht]
    rfl

/-- A commit that fails on a pool, and one that succeeds in an engine. -/
theorem transaction_closes_failing_commit :
    let d := Mock.driver "mock" .question
    let c : Client (Pooled.World Mock Unit Nat) :=
      { manager := (.ofPool (), { failing := ["commit"] }) }
    let e : Client (Embedded.World Sqlite.Database) :=
      { manager := ({ path := ":memory:", isConnected := true }, {}) }
    let M := Pooled.manager d
    let N := Embedded.manager Sqlite.engine
    let body : Body Unit := .done (.ok ())
    ((c.begin M).result = .ok () ∧
        ((Client.bracket M).transaction (body.run M) c).next.inTransaction M = false) ∧
      (e.begin N).result = .ok () ∧
        ((Client.bracket N).transaction (body.run N) e).next.inTransaction N = false := by
  intro d c e M N body
  have hc : (c.begin M).result = .ok () := rfl
  have he : (e.begin N).result = .ok () := rfl
  refine ⟨⟨hc, (transaction_closes body).1 d c hc⟩, he, ?_⟩
  exact ((transaction_closes body).2 Sqlite.engine e he).1.2 rfl

/-! ### A statement that commits by itself -/

namespace Sqlite

/-- Without an open transaction there is nothing to commit or to roll back. -/
theorem closing_ne_ok {db : Database} (h : db.saved = none) (r : Except Error α) :
    (engine.closing r db).1 ≠ .ok () := by
  cases r with
  | ok a => simp [Engine.closing, engine, control, Database.commit?, h]
  | error e => simp [Engine.closing, engine, control, Database.rollback?, h]

/-- A body whose query is two statements, the second of them a commit. -/
def committing : Body (List Record) :=
  .call (.table "t") fun _ => .call (.select ["1; COMMIT; --"]) fun _ => .executeRows .done

/-- A client connected to a new database. -/
def connected : Client (Embedded.World Database) :=
  (Client.connect (Embedded.manager engine) { manager := ({ path := ":memory:" }, {}) }).next

/-- Without parameters there is nothing to bind. -/
theorem execute_of_runSql {sql : String} {db next : Database} {a : List Row × Nat}
    (h : runSql sql [] db = (.ok a, next)) : ∃ r, execute sql [] db = (r, next) := by
  simp only [execute, executeBy, List.mapM_nil, pure, Except.pure, h]
  exact ⟨_, rfl⟩

theorem runSql_commit :
    runSql "SELECT 1; COMMIT; -- FROM t" [] { saved := some [] } =
      (.ok ([[{ name := "1", cell := .integer 1 }]], 0), {}) := by
  have ht : Token.ofSql? "SELECT 1; COMMIT; -- FROM t" =
      some [.word "SELECT", .number 1, .mark ';', .word "COMMIT", .mark ';'] := rfl
  have hp : (Text.pieces (· == Token.mark ';') [.word "SELECT", .number 1, .mark ';',
      .word "COMMIT", .mark ';']).filter (!·.isEmpty) =
        [[.word "SELECT", .number 1], [.word "COMMIT"]] := by decide
  have hs : Statement.ofTokens? 0 [.word "SELECT", .number 1] =
      some (.select [⟨.literal (.int 1), "1", none⟩], 0) := rfl
  have hc : Statement.ofTokens? 0 [.word "COMMIT"] = some (.commit, 0) := rfl
  have hr : ({ saved := some [] } : Database).run [] (.select [⟨.literal (.int 1), "1", none⟩]) =
      .ok ([[{ name := "1", cell := .integer 1 }]], { saved := some [] }) := rfl
  simp only [runSql, ht, hp, runAll, hs, hr, hc]
  rfl

theorem saved_run_committing :
    let M := Embedded.manager engine
    (committing.run M (connected.begin M).next).next.manager.2.saved = none := by
  intro M
  let s := (((connected.begin M).next.call (.table "t")).next.call (.select ["1; COMMIT; --"])).next
  have hm : s.manager = (⟨":memory:", true, true⟩, { saved := some [] }) := rfl
  have hq : s.state = ⟨"t", .select { columns := ["1; COMMIT; --"] }⟩ := rfl
  have hsql : "SELECT " ++ String.intercalate ", " ["1; COMMIT; --"] ++ " FROM " ++ "t" ++ "" =
      "SELECT 1; COMMIT; -- FROM t" := by simp
  have hb : s.build M = .ok ⟨"SELECT 1; COMMIT; -- FROM t", []⟩ := by
    rw [Client.build, hq, ← hsql]
    rfl
  obtain ⟨r, hx⟩ := execute_of_runSql runSql_commit
  have hs : (s.executeResult M).next.manager.2 = {} := by
    rw [s.executeResult_of_isConnected (by rw [hm]; rfl), hb]
    simp only [Client.manager_send, hm, M, Embedded.manager, Embedded.query, engine, hx, if_true]
    cases r <;> rfl
  exact congrArg Database.saved hs

/-- The commit of the transaction fails behind a body that has committed already, and the manager
keeps its flag. -/
theorem transaction_left_open :
    let M := Embedded.manager engine
    (connected.begin M).result = .ok () ∧
      ((Client.bracket M).transaction (committing.run M) connected).next.inTransaction M =
        true := by
  intro M
  have hb : (connected.begin M).result = .ok () := rfl
  refine ⟨hb, ?_⟩
  have h := (Embedded.transaction_closing engine committing hb).1
  rw [← Bool.not_eq_false]
  intro hf
  exact closing_ne_ok saved_run_committing _ (h.1 hf)

end Sqlite

end FluentSql
