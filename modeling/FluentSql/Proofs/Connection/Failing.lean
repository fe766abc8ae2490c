import FluentSql.MySql.Driver
import FluentSql.Postgres.Driver
import FluentSql.Proofs.Connection.Single

/-! Statements that fail. A manager that is connected gives the failure on as one of its query,
reports nothing, and is as it was, in a transaction or not. A handle that was taken for the
statement has gone back, once, and a handle that a transaction keeps is kept:
`Pooled.query_of_failure`, and `Pooled.query_refuses` where no handle runs the statement. An engine
has nothing to give back, `Embedded.query_of_failure`. -/

namespace FluentSql

variable {σ P H : Type}

/-- Handles can always be had, and taking one or giving it back changes nothing. -/
structure PoolDriver.Lends (d : PoolDriver σ P H) : Prop where
  acquire : ∀ pool w, ∃ h, d.acquire pool w = (.ok h, w)
  release : ∀ h w, d.release h w = w

theorem MySql.lends_driver : driver.Lends :=
  ⟨fun _ _ => ⟨(), rfl⟩, fun _ _ => rfl⟩

theorem Postgres.lends_driver : driver.Lends :=
  ⟨fun _ _ => ⟨(), rfl⟩, fun _ _ => rfl⟩

namespace Pooled

open PoolDriver

/-- The calls of a statement that fails. -/
def failedCalls (s : RecordedWorld σ P H) (sql : String) (params : List Value) (e : DriverError) :
    List DriverEvent :=
  match s.1.transaction with
  | some x => [.on x.1 (.execute sql params (some e))]
  | none =>
    let taken := s.2.nextHandle
    [.on taken (.acquire (poolNumber s)), .on taken (.execute sql params (some e)),
      .on taken .release]

/-- What comes of a statement that fails and leaves the world `v`. -/
def failedQuery (d : PoolDriver σ P H) (s : RecordedWorld σ P H) (sql : String)
    (params : List Value) (e : DriverError) (v : σ) :
    Outcome (RecordedWorld σ P H) QueryResult where
  result := .error (e.during d.name .query)
  next := (s.1, ⟨v, s.2.log ++ failedCalls s sql params e⟩)
  events := []

section Fails

variable {d : PoolDriver σ P H} {s : RecordedWorld σ P H} {sql : String} {params : List Value}
  {e : DriverError} {u v : σ}

/-- The statement fails on the handle of the transaction. -/
theorem query_of_failure_kept {x : Nat × H} (hc : s.1.isConnected) (ht : s.1.transaction = some x)
    (hx : d.execute x.2 sql params s.2.world = (.error e, v)) :
    query d.recorded sql params s.1 s.2 = failedQuery d s sql params e v := by
  obtain ⟨⟨_ | p, owns, t⟩, w⟩ := s
  · exact absurd hc Bool.false_ne_true
  · cases ht
    simp only [query, run, recorded_execute, hx]
    rfl

/-- The statement fails on a handle of its own, which goes back. -/
theorem query_of_failure_lent {p : Nat × P} {h : H} (hp : s.1.pool = some p)
    (ht : s.1.transaction = none) (ha : d.acquire p.2 s.2.world = (.ok h, u))
    (hx : d.execute h sql params u = (.error e, v)) :
    query d.recorded sql params s.1 s.2 = failedQuery d s sql params e (d.release h v) := by
  obtain ⟨⟨p, owns, t⟩, w⟩ := s
  cases hp
  cases ht
  simp only [query, run, recorded_acquire, ha, recorded_execute, Recorded.world_note, hx,
    recorded_release]
  exact congrArg (fun log => (⟨.error (e.during d.name .query), (_, ⟨d.release h v, log⟩), []⟩ :
    Outcome (RecordedWorld σ P H) QueryResult)) (append_three w.log _ _ _)

theorem query_of_failure (hd : d.Lends) (hc : s.1.isConnected)
    (hx : ∀ h, d.execute h sql params s.2.world = (.error e, v)) :
    query d.recorded sql params s.1 s.2 = failedQuery d s sql params e v := by
  cases ht : s.1.transaction with
  | some x => exact query_of_failure_kept hc ht (hx x.2)
  | none =>
    obtain ⟨p, hp⟩ := Option.isSome_iff_exists.1 hc
    obtain ⟨h, ha⟩ := hd.acquire p.2 s.2.world
    rw [query_of_failure_lent hp ht ha (hx h), hd.release]

end Fails

/-- How a statement is refused: on the handle of the transaction or on one taken for it, and then it
has done no more to the world than `touch`, or for want of a handle. -/
inductive Refuses (d : PoolDriver σ P H) (touch : σ → σ) (sql : String) (params : List Value)
    (s : RecordedWorld σ P H) : Outcome (RecordedWorld σ P H) QueryResult → Prop
  | kept (e : DriverError) (ht : s.1.inTransaction) :
    Refuses d touch sql params s (failedQuery d s sql params e (touch s.2.world))
  | lent {p : Nat × P} {h : H} {v : σ} (e : DriverError) (ht : s.1.transaction = none)
    (hp : s.1.pool = some p) (ha : d.acquire p.2 s.2.world = (.ok h, v)) :
    Refuses d touch sql params s (failedQuery d s sql params e (d.release h (touch v)))
  | unserved {p : Nat × P} {e : DriverError} {v : σ} (ht : s.1.transaction = none)
    (hp : s.1.pool = some p) (ha : d.acquire p.2 s.2.world = (.error e, v)) :
    Refuses d touch sql params s
      ⟨.error (e.during d.name .query), (s.1, s.2.note v (.acquireFailed p.1 e)), []⟩

theorem query_refuses {d : PoolDriver σ P H} {touch : σ → σ} {sql : String} {params : List Value}
    (hx : ∀ h w, ∃ e, d.execute h sql params w = (.error e, touch w)) {s : RecordedWorld σ P H}
    (hc : s.1.isConnected) :
    Refuses d touch sql params s (query d.recorded sql params s.1 s.2) := by
  cases ht : s.1.transaction with
  | some x =>
    obtain ⟨e, he⟩ := hx x.2 s.2.world
    rw [query_of_failure_kept hc ht he]
    exact .kept e (Option.isSome_iff_exists.2 ⟨x, ht⟩)
  | none =>
    obtain ⟨p, hp⟩ := Option.isSome_iff_exists.1 hc
    rcases ha : d.acquire p.2 s.2.world with ⟨e | h, v⟩
    · have hq : query d.recorded sql params s.1 s.2 =
          ⟨.error (e.during d.name .query), (s.1, s.2.note v (.acquireFailed p.1 e)), []⟩ := by
        simp only [query, run, hp, ht, recorded_acquire, ha]
        rfl
      rw [hq]
      exact .unserved ht hp ha
    · obtain ⟨e, he⟩ := hx h v
      rw [query_of_failure_lent hp ht ha he]
      exact .lent e ht hp ha

end Pooled

namespace Embedded

open Engine

/-- What comes of a statement that fails and leaves the world `v`. -/
def failedQuery (d : Engine σ) (s : World (Recorded σ)) (sql : String) (params : List Value)
    (e : DriverError) (v : σ) : Outcome (World (Recorded σ)) QueryResult where
  result := .error (e.during d.name .query)
  next := (s.1, ⟨v, s.2.log ++ [.on 0 (.execute sql params (some e))]⟩)
  events := []

theorem query_of_failure {d : Engine σ} {s : World (Recorded σ)} (hc : s.1.isConnected)
    {sql : String} {params : List Value} {e : DriverError} {v : σ}
    (hx : d.execute sql params s.2.world = (.error e, v)) :
    query d.recorded sql params s.1 s.2 = failedQuery d s sql params e v := by
  simp only [query, if_pos hc, recorded_execute, hx]
  rfl

end Embedded

end FluentSql
