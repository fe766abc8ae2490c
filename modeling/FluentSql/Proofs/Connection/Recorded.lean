import FluentSql.Connection.Pooled

/-! Runs of a manager, and a driver that keeps a record of its calls. A run is a list of requests,
made one after the other whatever comes of them. The recorded driver numbers the pools and the
handles in the order in which they are handed out, and writes every call down with the number of its
pool or handle and the failure it met. A manager on the recorded driver does what it does on the
driver itself, `forget_run`. -/

namespace FluentSql

/-! ### Runs -/

/-- What can be asked of a connection manager. -/
inductive Request where
  | connect
  | disconnect
  | query (sql : String) (params : List Value)
  | begin
  | commit
  | rollback

namespace Outcome

variable {σ α β : Type}

def map (f : α → β) (o : Outcome σ α) : Outcome σ β :=
  ⟨o.result.map f, o.next, o.events⟩

/-- The error of an outcome, if it is one. -/
def error? (o : Outcome σ α) : Option Error :=
  match o.result with
  | .ok _ => none
  | .error e => some e

end Outcome

namespace Manager

variable {μ : Type} (M : Manager μ)

/-- What comes of a request; a statement has a result. -/
def perform : Request → μ → Outcome μ (Option QueryResult)
  | .connect, m => (M.connect m).map fun _ => none
  | .disconnect, m => (M.disconnect m).map fun _ => none
  | .query sql params, m => (M.query sql params m).map some
  | .begin, m => (M.begin m).map fun _ => none
  | .commit, m => (M.commit m).map fun _ => none
  | .rollback, m => (M.rollback m).map fun _ => none

/-- The manager after a list of requests. -/
def run (rs : List Request) (m : μ) : μ :=
  rs.foldl (fun m r => (M.perform r m).next) m

/-- What every request keeps, a run keeps. -/
theorem run_induction {P : μ → Prop} (step : ∀ r m, P m → P (M.perform r m).next)
    (rs : List Request) {m : μ} (h : P m) : P (M.run rs m) := by
  induction rs generalizing m with
  | nil => exact h
  | cons r rs ih => exact ih (step r m h)

end Manager

/-! ### The record of a driver -/

/-- A call on a handle, with the failure it met; `acquire` is the one that handed the handle out. -/
inductive HandleCall where
  | acquire (pool : Nat)
  | execute (sql : String) (params : List Value) (failure : Option DriverError)
  | begin (failure : Option DriverError)
  | commit (failure : Option DriverError)
  | rollback (failure : Option DriverError)
  | release

/-- An entry of the record. -/
inductive DriverEvent where
  | opened (pool : Nat)
  | openFailed (failure : DriverError)
  | acquireFailed (pool : Nat) (failure : DriverError)
  | on (handle : Nat) (call : HandleCall)
  | closed (pool : Nat) (failure : Option DriverError)

namespace DriverEvent

/-- Whether a pool was opened. -/
def opens : DriverEvent → Bool
  | opened _ => true
  | _ => false

/-- Whether a handle was handed out. -/
def acquires : DriverEvent → Bool
  | on _ (.acquire _) => true
  | _ => false

end DriverEvent

/-- A world with a record. -/
structure Recorded (σ : Type) where
  world : σ
  log : List DriverEvent := []

namespace Recorded

variable {σ : Type}

/-- The number of the next pool to be opened; `0` stands for a shared one. -/
def nextPool (w : Recorded σ) : Nat :=
  w.log.countP DriverEvent.opens + 1

/-- The number of the next handle to be handed out. -/
def nextHandle (w : Recorded σ) : Nat :=
  w.log.countP DriverEvent.acquires

/-- The record goes on with an entry, the world as it is after the call. -/
def note (w : Recorded σ) (world : σ) (e : DriverEvent) : Recorded σ :=
  ⟨world, w.log ++ [e]⟩

@[simp] theorem world_note (w : Recorded σ) (v : σ) (e : DriverEvent) :
    (w.note v e).world = v := rfl

@[simp] theorem log_note (w : Recorded σ) (v : σ) (e : DriverEvent) :
    (w.note v e).log = w.log ++ [e] := rfl

end Recorded

/-- The failure of a call, if it failed. -/
def failure? {α : Type} : Except DriverError α → Option DriverError
  | .ok _ => none
  | .error e => some e

variable {σ P H : Type}

/-- The same driver, with a record of its calls. -/
def PoolDriver.recorded (d : PoolDriver σ P H) :
    PoolDriver (Recorded σ) (Nat × P) (Nat × H) where
  name := d.name
  placeholder := d.placeholder
  openPool w :=
    match d.openPool w.world with
    | (.ok p, v) => (.ok (w.nextPool, p), w.note v (.opened w.nextPool))
    | (.error e, v) => (.error e, w.note v (.openFailed e))
  acquire p w :=
    match d.acquire p.2 w.world with
    | (.ok h, v) => (.ok (w.nextHandle, h), w.note v (.on w.nextHandle (.acquire p.1)))
    | (.error e, v) => (.error e, w.note v (.acquireFailed p.1 e))
  execute h sql params w :=
    let (r, v) := d.execute h.2 sql params w.world
    (r, w.note v (.on h.1 (.execute sql params (failure? r))))
  begin h w :=
    let (r, v) := d.begin h.2 w.world
    (r, w.note v (.on h.1 (.begin (failure? r))))
  commit h w :=
    let (r, v) := d.commit h.2 w.world
    (r, w.note v (.on h.1 (.commit (failure? r))))
  rollback h w :=
    let (r, v) := d.rollback h.2 w.world
    (r, w.note v (.on h.1 (.rollback (failure? r))))
  release h w := w.note (d.release h.2 w.world) (.on h.1 .release)
  close p w :=
    let (r, v) := d.close p.2 w.world
    (r, w.note v (.closed p.1 (failure? r)))

namespace PoolDriver

variable (d : PoolDriver σ P H) (w : Recorded σ)

theorem recorded_openPool :
    d.recorded.openPool w =
      match d.openPool w.world with
      | (.ok p, v) => (.ok (w.nextPool, p), w.note v (.opened w.nextPool))
      | (.error e, v) => (.error e, w.note v (.openFailed e)) := rfl

theorem recorded_acquire (p : Nat × P) :
    d.recorded.acquire p w =
      match d.acquire p.2 w.world with
      | (.ok h, v) => (.ok (w.nextHandle, h), w.note v (.on w.nextHandle (.acquire p.1)))
      | (.error e, v) => (.error e, w.note v (.acquireFailed p.1 e)) := rfl

theorem recorded_execute (h : Nat × H) (sql : String) (params : List Value) :
    d.recorded.execute h sql params w =
      let r := d.execute h.2 sql params w.world
      (r.1, w.note r.2 (.on h.1 (.execute sql params (failure? r.1)))) := rfl

theorem recorded_begin (h : Nat × H) :
    d.recorded.begin h w =
      let r := d.begin h.2 w.world
      (r.1, w.note r.2 (.on h.1 (.begin (failure? r.1)))) := rfl

theorem recorded_commit (h : Nat × H) :
    d.recorded.commit h w =
      let r := d.commit h.2 w.world
      (r.1, w.note r.2 (.on h.1 (.commit (failure? r.1)))) := rfl

theorem recorded_rollback (h : Nat × H) :
    d.recorded.rollback h w =
      let r := d.rollback h.2 w.world
      (r.1, w.note r.2 (.on h.1 (.rollback (failure? r.1)))) := rfl

theorem recorded_release (h : Nat × H) :
    d.recorded.release h w = w.note (d.release h.2 w.world) (.on h.1 .release) := rfl

theorem recorded_close (p : Nat × P) :
    d.recorded.close p w =
      let r := d.close p.2 w.world
      (r.1, w.note r.2 (.closed p.1 (failure? r.1))) := rfl

end PoolDriver

namespace Pooled

/-- A manager on a recorded driver. -/
abbrev RecordedWorld (σ P H : Type) :=
  World (Recorded σ) (Nat × P) (Nat × H)

/-- A manager as it is made: one without a pool, or one of a shared pool. -/
def fresh (shared : Option P) : Pooled P H :=
  match shared with
  | none => {}
  | some p => ofPool p

/-- A manager as it is made, with an empty record. -/
def recorded (shared : Option P) (w : σ) : RecordedWorld σ P H :=
  (fresh (shared.map (Prod.mk 0)), { world := w })

/-- The same manager and world without the record and its numbers. -/
def forget (s : RecordedWorld σ P H) : World σ P H :=
  (⟨s.1.pool.map Prod.snd, s.1.ownsPool, s.1.transaction.map Prod.snd⟩, s.2.world)

open PoolDriver

variable (d : PoolDriver σ P H) (m : Pooled (Nat × P) (Nat × H)) (w : Recorded σ)

theorem forget_connect :
    (connect d.recorded m w).lift forget = connect d (forget (m, w)).1 (forget (m, w)).2 := by
  obtain ⟨_ | p, owns, x⟩ := m
  · simp only [connect, recorded_openPool, forget, Option.map_none]
    rcases d.openPool w.world with ⟨e | p, v⟩ <;> rfl
  · rfl

theorem forget_abandon :
    (forget (abandon d.recorded m w).1, (abandon d.recorded m w).2) =
      abandon d (forget (m, w)).1 (forget (m, w)).2 := by
  obtain ⟨p, owns, _ | x⟩ := m
  · rfl
  · simp only [abandon, recorded_rollback, forget, Option.map_some]
    rcases d.rollback x.2 w.world with ⟨e | u, v⟩ <;> rfl

theorem forget_leave :
    (leave d.recorded m w).lift forget = leave d (forget (m, w)).1 (forget (m, w)).2 := by
  obtain ⟨_ | p, _ | _, x⟩ := m
  · rfl
  · rfl
  · rfl
  · simp only [leave, recorded_close, forget, Option.map_some]
    rcases d.close p.2 w.world with ⟨e | u, v⟩ <;> rfl

theorem disconnect_eq (d : PoolDriver σ P H) (m : Pooled P H) (w : σ) :
    disconnect d m w =
      (leave d (abandon d m w).1.1 (abandon d m w).1.2).after (abandon d m w).2 := rfl

theorem forget_disconnect :
    (disconnect d.recorded m w).lift forget =
      disconnect d (forget (m, w)).1 (forget (m, w)).2 := by
  rw [disconnect_eq, disconnect_eq, ← forget_abandon]
  exact congrArg (Outcome.after _) (forget_leave d _ _)

theorem forget_query (sql : String) (params : List Value) :
    (query d.recorded sql params m w).lift forget =
      query d sql params (forget (m, w)).1 (forget (m, w)).2 := by
  obtain ⟨_ | p, owns, _ | x⟩ := m
  · rfl
  · rfl
  · simp only [query, run, recorded_acquire, forget, Option.map_some, Option.map_none]
    rcases d.acquire p.2 w.world with ⟨e | x, v⟩
    · rfl
    · simp only [recorded_execute, recorded_release, Recorded.world_note]
      rcases hx : d.execute x sql params v with ⟨e | raw, u⟩ <;> simp only [hx] <;> rfl
  · simp only [query, run, recorded_execute, forget, Option.map_some]
    rcases d.execute x.2 sql params w.world with ⟨e | raw, v⟩ <;> rfl

theorem forget_begin :
    (begin d.recorded m w).lift forget = begin d (forget (m, w)).1 (forget (m, w)).2 := by
  obtain ⟨_ | p, owns, _ | x⟩ := m
  · rfl
  · rfl
  · simp only [begin, recorded_acquire, forget, Option.map_some, Option.map_none]
    rcases d.acquire p.2 w.world with ⟨e | x, v⟩
    · rfl
    · simp only [recorded_begin, Recorded.world_note]
      rcases d.begin x v with ⟨e | u, v⟩ <;> rfl
  · rfl

theorem forget_commit :
    (commit d.recorded m w).lift forget = commit d (forget (m, w)).1 (forget (m, w)).2 := by
  obtain ⟨p, owns, _ | x⟩ := m
  · rfl
  · simp only [commit, recorded_commit, forget, Option.map_some]
    rcases d.commit x.2 w.world with ⟨e | u, v⟩
    · simp only [recorded_rollback, Recorded.world_note]
      rcases d.rollback x.2 v with ⟨e | u, v⟩ <;> rfl
    · rfl

theorem forget_rollback :
    (rollback d.recorded m w).lift forget = rollback d (forget (m, w)).1 (forget (m, w)).2 := by
  obtain ⟨p, owns, _ | x⟩ := m
  · rfl
  · simp only [rollback, recorded_rollback, forget, Option.map_some]
    rcases d.rollback x.2 w.world with ⟨e | u, v⟩ <;> rfl

/-- A request on the recorded driver is the request on the driver. -/
theorem forget_perform (r : Request) (s : RecordedWorld σ P H) :
    ((manager d.recorded).perform r s).lift forget = (manager d).perform r (forget s) := by
  obtain ⟨m, w⟩ := s
  cases r with
  | connect => exact congrArg (Outcome.map _) (forget_connect d m w)
  | disconnect => exact congrArg (Outcome.map _) (forget_disconnect d m w)
  | query sql params => exact congrArg (Outcome.map some) (forget_query d m w sql params)
  | begin => exact congrArg (Outcome.map _) (forget_begin d m w)
  | commit => exact congrArg (Outcome.map _) (forget_commit d m w)
  | rollback => exact congrArg (Outcome.map _) (forget_rollback d m w)

/-- A run on the recorded driver is the run on the driver. -/
theorem forget_run (rs : List Request) (s : RecordedWorld σ P H) :
    forget ((manager d.recorded).run rs s) = (manager d).run rs (forget s) := by
  induction rs generalizing s with
  | nil => rfl
  | cons r rs ih =>
    have h := congrArg Outcome.next (forget_perform d r s)
    exact (ih _).trans (congrArg _ h)

/-- A run of a manager as it is made, with a record of it. -/
theorem forget_run_recorded (shared : Option P) (w : σ) (rs : List Request) :
    forget ((manager d.recorded).run rs (recorded shared w)) =
      (manager d).run rs (fresh shared, w) := by
  rw [forget_run]
  cases shared <;> rfl

end Pooled

end FluentSql
