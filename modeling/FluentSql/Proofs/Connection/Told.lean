import FluentSql.Proofs.Client.Transaction
import FluentSql.Proofs.Connection.Single

/-! What managers tell of what they do. Each request tells of the rollbacks that it made on its own
and that failed, and then of its success if there was any; so its events can be read out of the
calls that it made, `Tells`. The events of a whole run that tell of connections, and of transactions
that were begun or committed, are those of the calls in the record that did so, in their order,
`milestones_run`. -/

namespace FluentSql

variable {σ P H α μ ν : Type}

/-! ### Events of a run -/

namespace Manager

/-- The events of a list of requests. -/
def told (M : Manager μ) : List Request → μ → List Event
  | [], _ => []
  | r :: rs, m => (M.perform r m).events ++ M.told rs (M.perform r m).next

theorem Maps.told {f : μ → ν} {M : Manager μ} {N : Manager ν} (h : M.Maps f N)
    (rs : List Request) (m : μ) : M.told rs m = N.told rs (f m) := by
  induction rs generalizing m with
  | nil => rfl
  | cons r rs ih =>
    rw [Manager.told, Manager.told, ← h.perform r m, ih]
    rfl

end Manager

/-! ### What there is to tell -/

section Events

variable (name : String) (path : Option String)

/-- Events of connections, and of transactions that were begun or committed. -/
def Event.isMilestone : Event → Bool
  | connected _ _ | disconnected _ | begun _ | committed _ => true
  | _ => false

/-- What is told of a call whatever it was made for. -/
def DriverEvent.milestone? : DriverEvent → Option Event
  | opened _ => some (.connected name path)
  | closed _ none => some (.disconnected name)
  | on _ (.begin none) => some (.begun name)
  | on _ (.commit none) => some (.committed name)
  | _ => none

namespace Request

/-- The warning of a call: a rollback failed that nobody had asked for. -/
def warning? : Request → DriverEvent → Option Event
  | disconnect, .on _ (.rollback (some e)) => some (.abandoned name e)
  | commit, .on _ (.rollback (some e)) => some (.stranded name e)
  | _, _ => none

/-- What is told of a call that was made for a request. -/
def event? (answer : Option QueryResult) (transacting : Bool) :
    Request → DriverEvent → Option Event
  | disconnect, .on _ (.rollback (some e)) => some (.abandoned name e)
  | commit, .on _ (.rollback (some e)) => some (.stranded name e)
  | rollback, .on _ (.rollback none) => some (.rolledBack name)
  | query _ _, .on _ (.execute _ _ none) =>
    answer.map fun a => .queried name a.count transacting
  | _, c => c.milestone? name path

/-- What is told of a request that succeeded, by the phase in which it was made. -/
def success? (p : Phase) (transacting : Bool) (answer : Option QueryResult) :
    Request → Option Event
  | connect => if p.connected then none else some (.connected name path)
  | disconnect =>
    match p with
    | .disconnected => none
    | .idle owned | .inTransaction owned =>
      some (if owned then .disconnected name else .detached name)
  | query _ _ => answer.map fun a => .queried name a.count transacting
  | begin => some (.begun name)
  | commit => some (.committed name)
  | rollback => some (.rolledBack name)

end Request

/-- Whether a pool is in use that is shared with others. -/
def Phase.shares : Phase → Bool
  | disconnected => false
  | idle owned | inTransaction owned => !owned

/-- What is told without a call: a shared pool is let go. -/
def Request.detached? (p : Phase) : Request → Option Event
  | disconnect => if p.shares then some (.detached name) else none
  | _ => none

/-- Of the milestones every call is told, whatever it was made for. -/
theorem Request.filter_event? (answer : Option QueryResult) (transacting : Bool) (r : Request)
    (c : DriverEvent) :
    (r.event? name path answer transacting c).filter Event.isMilestone =
      c.milestone? name path := by
  cases c with
  | opened pool | openFailed e | acquireFailed pool e => cases r <;> rfl
  | closed pool failure => cases failure <;> cases r <;> rfl
  | on h c =>
    cases c with
    | acquire pool | release => cases r <;> rfl
    | execute sql params failure => cases failure <;> cases r <;> cases answer <;> rfl
    | begin failure | commit failure | rollback failure => cases failure <;> cases r <;> rfl

end Events

/-- How the events of a request go with the calls that it makes: they are its warnings and then its
success, if it succeeds, and they are what its calls tell. Only letting go of a shared pool is no
call. -/
structure Tells (name : String) (path : Option String) (p : Phase) (r : Request) (w : Recorded σ)
    (inTransaction : α → Bool) (o : Outcome (α × Recorded σ) (Option QueryResult))
    (calls : List DriverEvent) : Prop where
  log : o.next.2.log = w.log ++ calls
  result : o.events = calls.filterMap (r.warning? name) ++
    (o.result.toOption.bind
      (r.success? name path p (inTransaction o.next.1) ·)).toList
  calls : o.events = calls.filterMap
    (r.event? name path o.result.toOption.join (inTransaction o.next.1)) ++
    (r.detached? name p).toList

namespace Pooled

open PoolDriver

variable (d : PoolDriver σ P H) (m : Pooled (Nat × P) (Nat × H)) (w : Recorded σ)

/-- What comes of a request tells of its calls. -/
abbrev Telling (r : Request) : Prop :=
  ∃ calls, Tells d.name none m.phase r w Pooled.inTransaction
    ((manager d.recorded).perform r (m, w)) calls

theorem telling_connect : Telling d m w .connect := by
  obtain ⟨_ | p, owns, x⟩ := m
  · simp only [Telling, Manager.perform, manager, connect, recorded_openPool]
    rcases d.openPool w.world with ⟨e | p, v⟩ <;> exact ⟨_, rfl, rfl, rfl⟩
  · cases x <;> exact ⟨[], (List.append_nil _).symm, rfl, rfl⟩

theorem telling_disconnect : Telling d m w .disconnect := by
  obtain ⟨pool, owns, _ | x⟩ := m
  · obtain _ | p := pool
    · exact ⟨[], (List.append_nil _).symm, rfl, rfl⟩
    · cases owns with
      | false => exact ⟨[], (List.append_nil _).symm, rfl, rfl⟩
      | true =>
        simp only [Telling, Manager.perform, manager, disconnect, abandon, leave, recorded_close]
        rcases d.close p.2 w.world with ⟨e | u, v⟩ <;> exact ⟨_, rfl, rfl, rfl⟩
  -- The rollback is told first if it failed, and then the pool is let go all the same.
  · simp only [Telling, Manager.perform, manager, disconnect, abandon, recorded_rollback,
      recorded_release]
    rcases d.rollback x.2 w.world with ⟨e | u, v⟩
    all_goals
      obtain _ | p := pool
      · exact ⟨_, List.append_assoc _ [_] [_], rfl, rfl⟩
      · cases owns with
        | false => exact ⟨_, List.append_assoc _ [_] [_], rfl, rfl⟩
        | true =>
          simp only [leave, recorded_close, Recorded.world_note]
          rcases d.close p.2 (d.release x.2 v) with ⟨e | u, v⟩ <;>
            exact ⟨_, append_three _ _ _ _, rfl, rfl⟩

theorem telling_query (sql : String) (params : List Value) : Telling d m w (.query sql params) := by
  obtain ⟨_ | p, owns, _ | x⟩ := m
  · exact ⟨[], (List.append_nil _).symm, rfl, rfl⟩
  · exact ⟨[], (List.append_nil _).symm, rfl, rfl⟩
  · simp only [Telling, Manager.perform, manager, query, run, recorded_acquire]
    rcases d.acquire p.2 w.world with ⟨e | x, v⟩
    · exact ⟨_, rfl, rfl, rfl⟩
    · simp only [recorded_execute, recorded_release, Recorded.world_note]
      rcases d.execute x sql params v with ⟨e | raw, u⟩ <;>
        exact ⟨_, append_three _ _ _ _, rfl, rfl⟩
  · simp only [Telling, Manager.perform, manager, query, run, recorded_execute]
    rcases d.execute x.2 sql params w.world with ⟨e | raw, v⟩ <;> exact ⟨_, rfl, rfl, rfl⟩

theorem telling_begin : Telling d m w .begin := by
  obtain ⟨_ | p, owns, _ | x⟩ := m
  · exact ⟨[], (List.append_nil _).symm, rfl, rfl⟩
  · exact ⟨[], (List.append_nil _).symm, rfl, rfl⟩
  · simp only [Telling, Manager.perform, manager, begin, recorded_acquire]
    rcases d.acquire p.2 w.world with ⟨e | x, v⟩
    · exact ⟨_, rfl, rfl, rfl⟩
    · simp only [recorded_begin, recorded_release, Recorded.world_note]
      rcases d.begin x v with ⟨e | y, u⟩
      · exact ⟨_, append_three _ _ _ _, rfl, rfl⟩
      · exact ⟨_, List.append_assoc _ [_] [_], rfl, rfl⟩
  · exact ⟨[], (List.append_nil _).symm, rfl, rfl⟩

theorem telling_commit : Telling d m w .commit := by
  obtain ⟨pool, owns, _ | x⟩ := m
  · exact ⟨[], (List.append_nil _).symm, rfl, rfl⟩
  · simp only [Telling, Manager.perform, manager, commit, recorded_commit]
    rcases d.commit x.2 w.world with ⟨e | y, v⟩
    -- What is told of a commit that failed is the rollback behind it, if that failed too.
    · simp only [recorded_rollback, recorded_release, Recorded.world_note]
      rcases d.rollback x.2 v with ⟨r | y, u⟩ <;> exact ⟨_, append_three _ _ _ _, rfl, rfl⟩
    · exact ⟨_, List.append_assoc _ [_] [_], rfl, rfl⟩

theorem telling_rollback : Telling d m w .rollback := by
  obtain ⟨pool, owns, _ | x⟩ := m
  · exact ⟨[], (List.append_nil _).symm, rfl, rfl⟩
  · simp only [Telling, Manager.perform, manager, rollback, recorded_rollback]
    rcases d.rollback x.2 w.world with ⟨e | y, v⟩ <;>
      exact ⟨_, List.append_assoc _ [_] [_], rfl, rfl⟩

theorem perform_tells (r : Request) (s : RecordedWorld σ P H) : Telling d s.1 s.2 r := by
  obtain ⟨m, w⟩ := s
  cases r with
  | connect => exact telling_connect d m w
  | disconnect => exact telling_disconnect d m w
  | query sql params => exact telling_query d m w sql params
  | begin => exact telling_begin d m w
  | commit => exact telling_commit d m w
  | rollback => exact telling_rollback d m w

end Pooled

namespace Embedded

open Engine

variable (d : Engine σ) (m : Embedded) (w : Recorded σ)

/-- What comes of a request tells of its calls, and the manager keeps its path. -/
abbrev Telling (r : Request) : Prop :=
  ((manager d.recorded).perform r (m, w)).next.1.path = m.path ∧
    ∃ calls, Tells d.name (some m.path) m.phase r w Embedded.inTransaction
      ((manager d.recorded).perform r (m, w)) calls

theorem telling_connect : Telling d m w .connect := by
  obtain ⟨path, _ | _, i⟩ := m
  · simp only [Telling, Manager.perform, manager, connect, recorded_openPath]
    rcases d.openPath path w.world with ⟨e | u, v⟩ <;> exact ⟨rfl, _, rfl, rfl, rfl⟩
  · cases i <;> exact ⟨rfl, [], (List.append_nil _).symm, rfl, rfl⟩

theorem telling_disconnect : Telling d m w .disconnect := by
  obtain ⟨path, _ | _, _ | _⟩ := m
  · exact ⟨rfl, [], (List.append_nil _).symm, rfl, rfl⟩
  · exact ⟨rfl, [], (List.append_nil _).symm, rfl, rfl⟩
  · have ha : abandon d.recorded ⟨path, true, false⟩ w = (w, []) := rfl
    simp only [Telling, Manager.perform, manager, disconnect_of_connected, ha, recorded_close]
    rcases d.close w.world with ⟨e | u, v⟩ <;> exact ⟨rfl, _, rfl, rfl, rfl⟩
  · simp only [Telling, Manager.perform, manager, disconnect_of_connected, abandon, if_true,
      recorded_rollback]
    rcases d.rollback w.world with ⟨e | u, v⟩
    all_goals
      simp only [recorded_close, Recorded.world_note]
      rcases d.close v with ⟨e | u, v⟩ <;>
        exact ⟨rfl, _, List.append_assoc _ [_] [_], rfl, rfl⟩

theorem telling_query (sql : String) (params : List Value) : Telling d m w (.query sql params) := by
  obtain ⟨path, _ | _, i⟩ := m
  · exact ⟨rfl, [], (List.append_nil _).symm, rfl, rfl⟩
  · simp only [Telling, Manager.perform, manager, query, recorded_execute]
    rcases d.execute sql params w.world with ⟨e | raw, v⟩ <;> exact ⟨rfl, _, rfl, rfl, rfl⟩

theorem telling_begin : Telling d m w .begin := by
  obtain ⟨path, _ | _, _ | _⟩ := m
  case true.false =>
    simp only [Telling, Manager.perform, manager, begin, control, recorded_begin]
    rcases d.begin w.world with ⟨e | u, v⟩ <;> exact ⟨rfl, _, rfl, rfl, rfl⟩
  all_goals exact ⟨rfl, [], (List.append_nil _).symm, rfl, rfl⟩

theorem telling_commit : Telling d m w .commit := by
  obtain ⟨path, _ | _, _ | _⟩ := m
  case true.true =>
    simp only [Telling, Manager.perform, manager, commit, control, recorded_commit]
    rcases d.commit w.world with ⟨e | u, v⟩ <;> exact ⟨rfl, _, rfl, rfl, rfl⟩
  all_goals exact ⟨rfl, [], (List.append_nil _).symm, rfl, rfl⟩

theorem telling_rollback : Telling d m w .rollback := by
  obtain ⟨path, _ | _, _ | _⟩ := m
  case true.true =>
    simp only [Telling, Manager.perform, manager, rollback, control, recorded_rollback]
    rcases d.rollback w.world with ⟨e | u, v⟩ <;> exact ⟨rfl, _, rfl, rfl, rfl⟩
  all_goals exact ⟨rfl, [], (List.append_nil _).symm, rfl, rfl⟩

theorem perform_tells (r : Request) (s : World (Recorded σ)) : Telling d s.1 s.2 r := by
  obtain ⟨m, w⟩ := s
  cases r with
  | connect => exact telling_connect d m w
  | disconnect => exact telling_disconnect d m w
  | query sql params => exact telling_query d m w sql params
  | begin => exact telling_begin d m w
  | commit => exact telling_commit d m w
  | rollback => exact telling_rollback d m w

end Embedded

/-! ### Runs -/

/-- The milestones that a request tells are those of its calls. -/
theorem Tells.milestones {name : String} {path : Option String} {p : Phase} {r : Request}
    {w : Recorded σ} {inTransaction : α → Bool}
    {o : Outcome (α × Recorded σ) (Option QueryResult)} {calls : List DriverEvent}
    (h : Tells name path p r w inTransaction o calls) :
    o.events.filter Event.isMilestone = calls.filterMap (DriverEvent.milestone? name path) := by
  have hdetached : (r.detached? name p).toList.filter Event.isMilestone = [] := by
    cases r with
    | disconnect =>
      rw [Request.detached?]
      split <;> rfl
    | _ => rfl
  rw [h.calls, List.filter_append, hdetached, List.append_nil, List.filter_filterMap]
  exact congrArg (calls.filterMap ·) (funext (Request.filter_event? name path _ _ r))

/-- The milestones that a run tells are those of its calls, if what holds of the manager at its
start makes every request tell of its calls and goes on to hold. -/
theorem milestones_run {M : Manager (α × Recorded σ)} {name : String} {path : Option String}
    {phase : α → Phase} {inTransaction : α → Bool} {I : α → Prop}
    (step : ∀ r s, I s.1 → I (M.perform r s).next.1 ∧
      ∃ calls, Tells name path (phase s.1) r s.2 inTransaction (M.perform r s) calls)
    (rs : List Request) {s : α × Recorded σ} (hs : I s.1) :
    I (M.run rs s).1 ∧ ∃ calls, (M.run rs s).2.log = s.2.log ++ calls ∧
      (M.told rs s).filter Event.isMilestone =
        calls.filterMap (DriverEvent.milestone? name path) := by
  induction rs generalizing s with
  | nil => exact ⟨hs, [], (List.append_nil _).symm, rfl⟩
  | cons r rs ih =>
    obtain ⟨hnext, calls, htells⟩ := step r s hs
    obtain ⟨hI, more, hlog, htold⟩ := ih hnext
    refine ⟨hI, calls ++ more, ?_, ?_⟩
    · rw [← List.append_assoc, ← htells.log]
      exact hlog
    · rw [Manager.told, List.filter_append, List.filterMap_append, htells.milestones, htold]

/-- Whatever the driver answers, each request after any run of a manager tells of the calls that it
makes, and of nothing else. Over the whole run, what is told of connections, and of transactions
that were begun or committed, is what the record has of them. On the driver itself the same comes of
each request, and the same is told. -/
theorem run_tells :
    (∀ {σ P H : Type} (d : PoolDriver σ P H) (shared : Option P) (w : σ) (rs : List Request),
        let M := Pooled.manager d.recorded
        let s := M.run rs (Pooled.recorded shared w)
        (∀ r, (M.perform r s).lift Pooled.forget =
              (Pooled.manager d).perform r ((Pooled.manager d).run rs (Pooled.fresh shared, w)) ∧
            ∃ calls,
              Tells d.name none s.1.phase r s.2 Pooled.inTransaction (M.perform r s) calls) ∧
          (M.told rs (Pooled.recorded shared w)).filter Event.isMilestone =
            s.2.log.filterMap (DriverEvent.milestone? d.name none) ∧
          M.told rs (Pooled.recorded shared w) =
            (Pooled.manager d).told rs (Pooled.fresh shared, w)) ∧
      ∀ {σ : Type} (d : Engine σ) (path : String) (w : σ) (rs : List Request),
        let M := Embedded.manager d.recorded
        let s := M.run rs (Embedded.recorded path w)
        (∀ r, (M.perform r s).lift Embedded.forget =
              (Embedded.manager d).perform r ((Embedded.manager d).run rs ({ path }, w)) ∧
            ∃ calls, Tells d.name (some path) s.1.phase r s.2 Embedded.inTransaction
              (M.perform r s) calls) ∧
          (M.told rs (Embedded.recorded path w)).filter Event.isMilestone =
            s.2.log.filterMap (DriverEvent.milestone? d.name (some path)) ∧
          M.told rs (Embedded.recorded path w) = (Embedded.manager d).told rs ({ path }, w) := by
  refine ⟨?_, ?_⟩
  · intro σ P H d shared w rs M s
    obtain ⟨-, calls, hlog, htold⟩ := milestones_run (M := M) (s := Pooled.recorded shared w)
      (I := fun _ => True) (fun r s _ => ⟨trivial, Pooled.perform_tells d r s⟩) rs trivial
    refine ⟨fun r => ⟨?_, Pooled.perform_tells d r s⟩, ?_, ?_⟩
    · rw [← Pooled.forget_run_recorded]
      exact Pooled.forget_perform d r s
    · rw [htold]
      exact congrArg _ hlog.symm
    · rw [(Pooled.maps_forget d).told]
      cases shared <;> rfl
  · intro σ d path w rs M s
    have step (r : Request) (s : Embedded.World (Recorded σ)) (hs : s.1.path = path) :
        (M.perform r s).next.1.path = path ∧ ∃ calls, Tells d.name (some path) s.1.phase r s.2
          Embedded.inTransaction (M.perform r s) calls := by
      obtain ⟨hkept, htells⟩ := Embedded.perform_tells d r s
      exact ⟨hkept.trans hs, hs ▸ htells⟩
    obtain ⟨hpath, calls, hlog, htold⟩ := milestones_run (M := M) (s := Embedded.recorded path w)
      (I := fun m => m.path = path) step rs rfl
    refine ⟨fun r => ⟨?_, ?_⟩, ?_, (Embedded.maps_forget d).told rs _⟩
    · rw [(Embedded.maps_forget d).perform]
      exact congrArg _ ((Embedded.maps_forget d).run rs _)
    · exact (step r s hpath).2
    · rw [htold]
      exact congrArg _ hlog.symm

end FluentSql
