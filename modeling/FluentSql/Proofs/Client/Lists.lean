import FluentSql.Proofs.Client.Answers
import FluentSql.Proofs.Connection.Failing
import FluentSql.Proofs.Record.Readings

/-! Statements with a list among their parameters. No backend can bind one, wherever it stands, and
all parameters are bound before the statement is run: it is not, the query has failed, and the
manager is as it was, `query_refuses_lists`. -/

namespace FluentSql

/-- One element without an image, and there is none of the list. -/
theorem Option.mapM_eq_none {α β : Type} {f : α → Option β} {x : α} {xs : List α} (hx : x ∈ xs)
    (h : f x = none) : xs.mapM f = none := by
  induction xs with
  | nil => exact absurd hx List.not_mem_nil
  | cons y ys ih =>
    rw [List.mapM_cons]
    rcases List.mem_cons.1 hx with rfl | hys
    · rw [h]
      rfl
    · rw [ih hys]
      cases f y <;> rfl

/-! ### Binding -/

section Binding

variable {sql : String} {params : List Value}

namespace MySql

theorem mapM_ofValue?_of_list {items : List Value} (h : .list items ∈ params) :
    params.mapM Param.ofValue? = none :=
  Option.mapM_eq_none h rfl

/-- Nothing is sent. -/
theorem execute_of_list {items : List Value} (h : .list items ∈ params) (s : Server) :
    execute sql params s = (.error listError, s) := by
  rw [execute, mapM_ofValue?_of_list h]

end MySql

namespace Postgres

/-- The first list is told, or a parameter before it that cannot be encoded. -/
theorem encodeAll_of_list {items : List Value} (h : .list items ∈ params) {types : List DataType}
    (hlen : types.length = params.length) (index : Nat) :
    ∃ e, encodeAll index types params = .error e := by
  induction params generalizing types index with
  | nil => exact absurd h List.not_mem_nil
  | cons v vs ih =>
    obtain _ | ⟨t, ts⟩ := types
    · cases hlen
    · rw [encodeAll]
      cases hv : encode v t with
      | error e => exact ⟨_, rfl⟩
      | ok bs =>
        rcases List.mem_cons.1 h with rfl | hvs
        · cases hv
        · obtain ⟨e, he⟩ := ih hvs (Nat.succ.inj hlen) (index + 1)
          exact ⟨e, by rw [he]; rfl⟩

theorem bindAll_of_list {items : List Value} (h : .list items ∈ params) (types : List DataType) :
    ∃ e, bindAll types params = .error e := by
  rw [bindAll]
  split
  next hlen => exact encodeAll_of_list h hlen 0
  next => exact ⟨_, rfl⟩

/-- A server that has prepared a statement, and no more. -/
def Server.prepared (sql : String) (s : Server) : Server :=
  (s.see ("prepare " ++ sql)).take.2

theorem Server.log_prepared (s : Server) :
    (s.prepared sql).log = s.log ++ ["prepare " ++ sql] := by
  obtain ⟨replies, failures, log⟩ := s
  cases replies <;> rfl

/-- The parameters are encoded for the types that the prepared statement has, and nothing is bound.
-/
theorem execute_of_list {items : List Value} (h : .list items ∈ params) (s : Server) :
    ∃ e, execute sql params s = (.error e, s.prepared sql) := by
  rw [execute, Server.prepared]
  rcases (s.see ("prepare " ++ sql)).take with ⟨r, t⟩
  simp only
  split
  next e => exact ⟨_, rfl⟩
  next =>
    obtain ⟨e, he⟩ := bindAll_of_list h r.params
    rw [he]
    exact ⟨e, rfl⟩

end Postgres

namespace Sqlite

theorem mapM_bind_of_list {items : List Value} (h : .list items ∈ params) :
    ∃ e, params.mapM bind = .error e := by
  cases hb : params.mapM bind with
  | error e => exact ⟨e, rfl⟩
  | ok bound =>
    obtain ⟨v, hv⟩ := Except.exists_mapM_eq_ok_iff.1 ⟨bound, hb⟩ _ h
    cases hv

/-- Nothing is run. -/
theorem executeBy_of_list {σ : Type} {items : List Value} (h : .list items ∈ params)
    (runs : Runs σ) (w : σ) : ∃ e, executeBy runs sql params w = (.error e, w) := by
  obtain ⟨e, he⟩ := mapM_bind_of_list h
  exact ⟨e, by rw [executeBy, he]⟩

end Sqlite

end Binding

/-! ### Queries -/

/-- Where there is a list among the parameters, the query of a connected manager fails as a query
and leaves the manager as it was, in a transaction or not; a handle that was taken for it is back.
MySQL is sent nothing, PostgreSQL has prepared the statement and bound nothing to it, and an
embedded engine has run nothing. -/
theorem query_refuses_lists {sql : String} {params items : List Value} (h : .list items ∈ params) :
    (∀ {P H : Type} (d : PoolDriver MySql.Server P H), (∀ x, d.execute x = MySql.execute) →
        ∀ s : Pooled.RecordedWorld MySql.Server P H, s.1.isConnected →
          Pooled.Refuses d id sql params s (Pooled.query d.recorded sql params s.1 s.2)) ∧
      ((∀ s : Postgres.Server, (s.prepared sql).log = s.log ++ ["prepare " ++ sql]) ∧
        ∀ {P H : Type} (d : PoolDriver Postgres.Server P H),
          (∀ x, d.execute x = Postgres.execute) →
          ∀ s : Pooled.RecordedWorld Postgres.Server P H, s.1.isConnected →
            Pooled.Refuses d (Postgres.Server.prepared sql) sql params s
              (Pooled.query d.recorded sql params s.1 s.2)) ∧
        ∀ {σ : Type} (d : Engine σ) (runs : Sqlite.Runs σ), d.execute = Sqlite.executeBy runs →
          ∀ s : Embedded.World (Recorded σ), s.1.isConnected →
            ∃ e, Embedded.query d.recorded sql params s.1 s.2 =
              Embedded.failedQuery d s sql params e s.2.world := by
  refine ⟨?_, ⟨Postgres.Server.log_prepared, ?_⟩, ?_⟩
  · intro P H d hd s hc
    refine Pooled.query_refuses (fun x w => ⟨MySql.listError, ?_⟩) hc
    rw [hd, MySql.execute_of_list h]
    rfl
  · intro P H d hd s hc
    refine Pooled.query_refuses (fun x w => ?_) hc
    rw [hd]
    exact Postgres.execute_of_list h w
  · intro σ d runs hd s hc
    obtain ⟨e, he⟩ := Sqlite.executeBy_of_list h runs s.2.world
    rw [← hd] at he
    exact ⟨e, Embedded.query_of_failure hc he⟩

/-- A list behind a parameter that can be bound: on a handle of its own, and in transactions. -/
theorem query_refuses_lists_second :
    let sql := "SELECT a"
    let params : List Value := [.int 1, .list [.int 2]]
    let s : Pooled.RecordedWorld MySql.Server Unit Unit :=
      (⟨some (0, ()), true, none⟩, { world := {} })
    let t : Pooled.RecordedWorld Postgres.Server Unit Unit :=
      (⟨some (0, ()), true, some (0, ())⟩,
        { world := { replies := [{ params := [.int8, .int8] }] } })
    let u : Embedded.World (Recorded Sqlite.Database) :=
      (⟨":memory:", true, true⟩, { world := { saved := some [] } })
    .list [.int 2] ∈ params ∧
      Pooled.Refuses MySql.driver id sql params s
        (Pooled.query MySql.driver.recorded sql params s.1 s.2) ∧
      Pooled.Refuses Postgres.driver (Postgres.Server.prepared sql) sql params t
        (Pooled.query Postgres.driver.recorded sql params t.1 t.2) ∧
      ∃ e, Embedded.query Sqlite.engine.recorded sql params u.1 u.2 =
        Embedded.failedQuery Sqlite.engine u sql params e u.2.world := by
  intro sql params s t u
  have h : .list [.int 2] ∈ params := .tail _ (.head _)
  obtain ⟨mysql, ⟨-, postgres⟩, sqlite⟩ := @query_refuses_lists sql params _ h
  exact ⟨h, mysql MySql.driver (fun _ => rfl) s rfl, postgres Postgres.driver (fun _ => rfl) t rfl,
    sqlite Sqlite.engine Sqlite.runSql rfl u rfl⟩

end FluentSql
