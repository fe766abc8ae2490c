import FluentSql.Connection.Embedded
import FluentSql.Proofs.Client.Maps
import FluentSql.Proofs.Connection.Phase

/-! The life of an embedded manager, with a record of what its engine was called for. Its moves are
those of a manager with a pool of its own, but for two things: there are no handles to take and to
give back, and a commit or a rollback that fails leaves it in its transaction, `perform_follows`.
-/

namespace FluentSql

variable {σ μ ν α : Type}

/-! ### Runs under a map -/

namespace Manager.Maps

variable {f : μ → ν} {M : Manager μ} {N : Manager ν}

theorem perform (h : M.Maps f N) (r : Request) (m : μ) :
    (M.perform r m).lift f = N.perform r (f m) := by
  cases r with
  | connect => exact congrArg (Outcome.map fun _ => none) (h.connect m)
  | disconnect => exact congrArg (Outcome.map fun _ => none) (h.disconnect m)
  | query sql params => exact congrArg (Outcome.map some) (h.query sql params m)
  | begin => exact congrArg (Outcome.map fun _ => none) (h.begin m)
  | commit => exact congrArg (Outcome.map fun _ => none) (h.commit m)
  | rollback => exact congrArg (Outcome.map fun _ => none) (h.rollback m)

theorem run (h : M.Maps f N) (rs : List Request) (m : μ) : f (M.run rs m) = N.run rs (f m) := by
  induction rs generalizing m with
  | nil => rfl
  | cons r rs ih =>
    have hr : f (M.perform r m).next = (N.perform r (f m)).next :=
      congrArg Outcome.next (h.perform r m)
    exact (ih (M.perform r m).next).trans (congrArg (N.run rs) hr)

end Manager.Maps

/-! ### The record of an engine -/

/-- A call that is written down with the failure it met. -/
def Recorded.call (w : Recorded σ) (c : DriverCall σ α) (entry : Option DriverError → DriverEvent) :
    Except DriverError α × Recorded σ :=
  let (r, v) := c w.world
  (r, w.note v (entry (failure? r)))

/-- The entry for an attempt to open the one database of an engine. -/
def DriverEvent.ofOpening : Option DriverError → DriverEvent
  | none => .opened 0
  | some e => .openFailed e

/-- The same engine, with a record of its calls; all of them are on the connection with number 0. -/
def Engine.recorded (d : Engine σ) : Engine (Recorded σ) where
  name := d.name
  openPath path w := w.call (d.openPath path) .ofOpening
  execute sql params w := w.call (d.execute sql params) fun f => .on 0 (.execute sql params f)
  begin w := w.call d.begin fun f => .on 0 (.begin f)
  commit w := w.call d.commit fun f => .on 0 (.commit f)
  rollback w := w.call d.rollback fun f => .on 0 (.rollback f)
  close w := w.call d.close (.closed 0)

namespace Engine

variable (d : Engine σ) (w : Recorded σ)

theorem recorded_openPath (path : String) :
    d.recorded.openPath path w =
      let r := d.openPath path w.world
      (r.1, w.note r.2 (.ofOpening (failure? r.1))) := rfl

theorem recorded_execute (sql : String) (params : List Value) :
    d.recorded.execute sql params w =
      let r := d.execute sql params w.world
      (r.1, w.note r.2 (.on 0 (.execute sql params (failure? r.1)))) := rfl

theorem recorded_begin :
    d.recorded.begin w =
      let r := d.begin w.world
      (r.1, w.note r.2 (.on 0 (.begin (failure? r.1)))) := rfl

theorem recorded_commit :
    d.recorded.commit w =
      let r := d.commit w.world
      (r.1, w.note r.2 (.on 0 (.commit (failure? r.1)))) := rfl

theorem recorded_rollback :
    d.recorded.rollback w =
      let r := d.rollback w.world
      (r.1, w.note r.2 (.on 0 (.rollback (failure? r.1)))) := rfl

theorem recorded_close :
    d.recorded.close w =
      let r := d.close w.world
      (r.1, w.note r.2 (.closed 0 (failure? r.1))) := rfl

end Engine

namespace Embedded

open Engine

/-- The same manager and world without the record. -/
def forget (s : World (Recorded σ)) : World σ :=
  (s.1, s.2.world)

/-- A manager as it is made, with an empty record. -/
def recorded (path : String) (w : σ) : World (Recorded σ) :=
  ({ path }, { world := w })

section Forget

variable (d : Engine σ) (m : Embedded) (w : Recorded σ)

theorem forget_connect : (connect d.recorded m w).lift forget = connect d m w.world := by
  obtain ⟨path, _ | _, i⟩ := m
  · simp only [connect, recorded_openPath]
    rcases d.openPath path w.world with ⟨e | u, v⟩ <;> rfl
  · rfl

theorem forget_abandon :
    ((abandon d.recorded m w).1.world, (abandon d.recorded m w).2) = abandon d m w.world := by
  obtain ⟨path, c, _ | _⟩ := m
  · rfl
  · simp only [abandon, recorded_rollback]
    rcases d.rollback w.world with ⟨e | u, v⟩ <;> rfl

theorem disconnect_of_connected (d : Engine σ) (path : String) (i : Bool) (w : σ) :
    disconnect d ⟨path, true, i⟩ w =
      let (w, events) := abandon d ⟨path, true, i⟩ w
      match d.close w with
      | (.error e, w) => (fail d .disconnect e { path } w).after events
      | (.ok _, w) => ⟨.ok (), ({ path }, w), events ++ [.disconnected d.name]⟩ :=
  rfl

theorem forget_disconnect : (disconnect d.recorded m w).lift forget = disconnect d m w.world := by
  obtain ⟨path, _ | _, i⟩ := m
  · rfl
  · rw [disconnect_of_connected, disconnect_of_connected, ← forget_abandon]
    simp only [recorded_close]
    rcases d.close (abandon d.recorded ⟨path, true, i⟩ w).1.world with ⟨e | u, v⟩ <;> rfl

theorem forget_query (sql : String) (params : List Value) :
    (query d.recorded sql params m w).lift forget = query d sql params m w.world := by
  obtain ⟨path, _ | _, i⟩ := m
  · rfl
  · simp only [query, recorded_execute]
    rcases d.execute sql params w.world with ⟨e | raw, v⟩ <;> rfl

theorem forget_control (call : DriverCall σ Unit) (entry : Option DriverError → DriverEvent)
    (operation : Operation) (opens : Bool) (event : Event) :
    (control d.recorded (fun w => w.call call entry) operation opens event m w).lift forget =
      control d call operation opens event m w.world := by
  obtain ⟨path, _ | _, i⟩ := m
  · rfl
  · simp only [control, Recorded.call]
    rcases call w.world with ⟨e | u, v⟩ <;> rfl

theorem forget_begin : (begin d.recorded m w).lift forget = begin d m w.world := by
  rw [begin, begin]
  split
  · rfl
  · exact forget_control d m w d.begin (fun f => .on 0 (.begin f)) ..

theorem forget_commit : (commit d.recorded m w).lift forget = commit d m w.world := by
  rw [commit, commit]
  split
  · exact forget_control d m w d.commit (fun f => .on 0 (.commit f)) ..
  · rfl

theorem forget_rollback : (rollback d.recorded m w).lift forget = rollback d m w.world := by
  rw [rollback, rollback]
  split
  · exact forget_control d m w d.rollback (fun f => .on 0 (.rollback f)) ..
  · rfl

/-- The record is all that `forget` takes away. -/
theorem maps_forget : (manager d.recorded).Maps forget (manager d) where
  placeholder _ := rfl
  isConnected _ := rfl
  inTransaction _ := rfl
  connect s := forget_connect d s.1 s.2
  disconnect s := forget_disconnect d s.1 s.2
  query sql params s := forget_query d s.1 s.2 sql params
  begin s := forget_begin d s.1 s.2
  commit s := forget_commit d s.1 s.2
  rollback s := forget_rollback d s.1 s.2

end Forget

end Embedded

/-! ### Moves -/

/-- A handle is taken or given back. -/
def DriverStep.isLoan : DriverStep → Bool
  | acquire | release => true
  | _ => false

/-- The move of a manager with one connection in place of a pool. What it cannot end goes on; in all
else it moves as on a pool of its own from which a handle can always be had. -/
def Phase.single (name : String) (fails : Failures) : Phase → Request → Move
  | inTransaction owned, .commit =>
    ⟨[.commit], fails.commit.map (·.during name .commit),
      if fails.commit.isSome then inTransaction owned else idle owned⟩
  | inTransaction owned, .rollback =>
    ⟨[.rollback], fails.rollback.map (·.during name .rollback),
      if fails.rollback.isSome then inTransaction owned else idle owned⟩
  | p, r =>
    let m := p.move name { fails with acquire := none } r
    { m with calls := m.calls.filter (!·.isLoan) }

namespace Embedded

def phase (m : Embedded) : Phase :=
  if m.isConnected then
    if m.inTransaction then .inTransaction true else .idle true
  else .disconnected

/-- A transaction has a connection. -/
def Sound (m : Embedded) : Prop :=
  m.inTransaction → m.isConnected

/-- The outcome of a request is a move: its error, the phase after it and its calls. -/
structure Follows (name : String) (fails : Failures) (r : Request) (s : World (Recorded σ))
    (o : Outcome (World (Recorded σ)) (Option QueryResult)) : Prop where
  error : o.error? = (s.1.phase.single name fails r).error
  phase : o.next.1.phase = (s.1.phase.single name fails r).next
  log : o.next.2.log = s.2.log ++ (s.1.phase.single name fails r).calls.map (·.event 0 0 fails)
  sound : o.next.1.Sound

section Moves

open Engine

variable (d : Engine σ) (m : Embedded) (w : Recorded σ)

theorem follows_connect (h : m.Sound) :
    ∃ fails, Follows d.name fails .connect (m, w)
      ((manager d.recorded).perform .connect (m, w)) := by
  obtain ⟨path, _ | _, _ | _⟩ := m
  · simp only [Manager.perform, manager, connect, recorded_openPath]
    rcases d.openPath path w.world with ⟨e | u, v⟩
    · exact ⟨{ openPool := some e }, rfl, rfl, rfl, h⟩
    · exact ⟨{}, rfl, rfl, rfl, fun _ => rfl⟩
  · exact absurd (h rfl) Bool.false_ne_true
  · exact ⟨{}, rfl, rfl, (List.append_nil _).symm, h⟩
  · exact ⟨{}, rfl, rfl, (List.append_nil _).symm, h⟩

/-- A transaction that is abandoned is rolled back, whatever comes of it. -/
theorem abandon_of_transaction (path : String) (c : Bool) :
    ∃ failure v, (abandon d.recorded ⟨path, c, true⟩ w).1 =
      w.note v (.on 0 (.rollback failure)) := by
  simp only [abandon, recorded_rollback]
  rcases d.rollback w.world with ⟨e | u, v⟩
  · exact ⟨some e, v, rfl⟩
  · exact ⟨none, v, rfl⟩

theorem follows_disconnect (h : m.Sound) :
    ∃ fails, Follows d.name fails .disconnect (m, w)
      ((manager d.recorded).perform .disconnect (m, w)) := by
  have gone (path : String) : Sound { path } := fun h => absurd h Bool.false_ne_true
  obtain ⟨path, _ | _, _ | _⟩ := m
  · exact ⟨{}, rfl, rfl, (List.append_nil _).symm, h⟩
  · exact absurd (h rfl) Bool.false_ne_true
  · have ha : (abandon d.recorded ⟨path, true, false⟩ w).1 = w := rfl
    simp only [Manager.perform, manager, disconnect_of_connected, ha, recorded_close]
    rcases d.close w.world with ⟨e | u, v⟩
    · exact ⟨{ close := some e }, rfl, rfl, rfl, gone path⟩
    · exact ⟨{}, rfl, rfl, rfl, gone path⟩
  · obtain ⟨f, v, ha⟩ := abandon_of_transaction d w path true
    simp only [Manager.perform, manager, disconnect_of_connected, ha, recorded_close,
      Recorded.world_note]
    rcases d.close v with ⟨e | u, v⟩
    · exact ⟨{ rollback := f, close := some e }, rfl, rfl, List.append_assoc _ [_] [_], gone path⟩
    · exact ⟨{ rollback := f }, rfl, rfl, List.append_assoc _ [_] [_], gone path⟩

theorem follows_query (sql : String) (params : List Value) (h : m.Sound) :
    ∃ fails, Follows d.name fails (.query sql params) (m, w)
      ((manager d.recorded).perform (.query sql params) (m, w)) := by
  obtain ⟨path, _ | _, _ | _⟩ := m
  · exact ⟨{}, rfl, rfl, (List.append_nil _).symm, h⟩
  · exact absurd (h rfl) Bool.false_ne_true
  all_goals
    simp only [Manager.perform, manager, query, recorded_execute]
    rcases d.execute sql params w.world with ⟨e | raw, v⟩
    · exact ⟨{ execute := some e }, rfl, rfl, rfl, h⟩
    · exact ⟨{}, rfl, rfl, rfl, h⟩

theorem follows_begin (h : m.Sound) :
    ∃ fails, Follows d.name fails .begin (m, w)
      ((manager d.recorded).perform .begin (m, w)) := by
  obtain ⟨path, _ | _, _ | _⟩ := m
  · exact ⟨{}, rfl, rfl, (List.append_nil _).symm, h⟩
  · exact absurd (h rfl) Bool.false_ne_true
  · simp only [Manager.perform, manager, begin, control, recorded_begin]
    rcases d.begin w.world with ⟨e | u, v⟩
    · exact ⟨{ begin := some e }, rfl, rfl, rfl, h⟩
    · exact ⟨{}, rfl, rfl, rfl, fun _ => rfl⟩
  · exact ⟨{}, rfl, rfl, (List.append_nil _).symm, h⟩

theorem follows_commit (h : m.Sound) :
    ∃ fails, Follows d.name fails .commit (m, w)
      ((manager d.recorded).perform .commit (m, w)) := by
  obtain ⟨path, _ | _, _ | _⟩ := m
  · exact ⟨{}, rfl, rfl, (List.append_nil _).symm, h⟩
  · exact absurd (h rfl) Bool.false_ne_true
  · exact ⟨{}, rfl, rfl, (List.append_nil _).symm, h⟩
  · simp only [Manager.perform, manager, commit, control, recorded_commit]
    rcases d.commit w.world with ⟨e | u, v⟩
    · exact ⟨{ commit := some e }, rfl, rfl, rfl, h⟩
    · exact ⟨{}, rfl, rfl, rfl, fun _ => rfl⟩

theorem follows_rollback (h : m.Sound) :
    ∃ fails, Follows d.name fails .rollback (m, w)
      ((manager d.recorded).perform .rollback (m, w)) := by
  obtain ⟨path, _ | _, _ | _⟩ := m
  · exact ⟨{}, rfl, rfl, (List.append_nil _).symm, h⟩
  · exact absurd (h rfl) Bool.false_ne_true
  · exact ⟨{}, rfl, rfl, (List.append_nil _).symm, h⟩
  · simp only [Manager.perform, manager, rollback, control, recorded_rollback]
    rcases d.rollback w.world with ⟨e | u, v⟩
    · exact ⟨{ rollback := some e }, rfl, rfl, rfl, h⟩
    · exact ⟨{}, rfl, rfl, rfl, fun _ => rfl⟩

/-- Every request of a sound manager is a move. -/
theorem perform_follows (r : Request) (s : World (Recorded σ)) (h : s.1.Sound) :
    ∃ fails, Follows d.name fails r s ((manager d.recorded).perform r s) := by
  obtain ⟨m, w⟩ := s
  cases r with
  | connect => exact follows_connect d m w h
  | disconnect => exact follows_disconnect d m w h
  | query sql params => exact follows_query d m w sql params h
  | begin => exact follows_begin d m w h
  | commit => exact follows_commit d m w h
  | rollback => exact follows_rollback d m w h

end Moves

end Embedded

end FluentSql
