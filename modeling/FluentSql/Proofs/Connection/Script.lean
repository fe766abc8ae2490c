import FluentSql.Proofs.Connection.Recorded

/-! Operations of a manager of a pool, call by call. A script is what is left of an operation: it is
done, or asks the driver for one thing and goes on from the answer. Each operation is the run of its
script, `perform_eq_outcome`; between any two of its calls others may ask the same driver. -/

namespace FluentSql

variable {σ P H α β : Type}

/-- What a driver can be asked for. -/
inductive DriverAsk (P H : Type) where
  | openPool
  | acquire (pool : P)
  | execute (handle : H) (sql : String) (params : List Value)
  | begin (handle : H)
  | commit (handle : H)
  | rollback (handle : H)
  | release (handle : H)
  | close (pool : P)

/-- What the driver answers. -/
abbrev DriverAsk.Reply : DriverAsk P H → Type
  | openPool => Except DriverError P
  | acquire _ => Except DriverError H
  | execute _ _ _ => Except DriverError RawOutput
  | release _ => Unit
  | begin _ | commit _ | rollback _ | close _ => Except DriverError Unit

/-- The handle that is asked to do something. -/
def DriverAsk.handle? : DriverAsk P H → Option H
  | execute h _ _ | begin h | commit h | rollback h | release h => some h
  | openPool | acquire _ | close _ => none

def PoolDriver.answer (d : PoolDriver σ P H) : (a : DriverAsk P H) → σ → a.Reply × σ
  | .openPool, w => d.openPool w
  | .acquire pool, w => d.acquire pool w
  | .execute h sql params, w => d.execute h sql params w
  | .begin h, w => d.begin h w
  | .commit h, w => d.commit h w
  | .rollback h, w => d.rollback h w
  | .release h, w => ((), d.release h w)
  | .close pool, w => d.close pool w

inductive Script (P H β : Type) where
  | done (b : β)
  | ask (a : DriverAsk P H) (next : a.Reply → Script P H β)

namespace Script

def andThen : Script P H α → (α → Script P H β) → Script P H β
  | done a, f => f a
  | ask a next, f => ask a fun r => (next r).andThen f

def map (f : α → β) (s : Script P H α) : Script P H β :=
  s.andThen fun a => done (f a)

/-- Runs a script to its end, without anyone else asking the driver in between. -/
def run (d : PoolDriver σ P H) : Script P H β → σ → β × σ
  | done b, w => (b, w)
  | ask a next, w =>
    let (r, w) := d.answer a w
    (next r).run d w

theorem run_andThen (d : PoolDriver σ P H) (s : Script P H α) (f : α → Script P H β) (w : σ) :
    (s.andThen f).run d w = (f (s.run d w).1).run d (s.run d w).2 := by
  induction s generalizing w with
  | done a => rfl
  | ask a next ih => exact ih _ _

theorem run_map (d : PoolDriver σ P H) (s : Script P H α) (f : α → β) (w : σ) :
    (s.map f).run d w = (f (s.run d w).1, (s.run d w).2) :=
  run_andThen d s _ w

/-! ### The scripts of a manager -/

section Operations

variable (name : String) (m : Pooled P H)

def connect : Script P H (Outcome (Pooled P H) Unit) :=
  match m.pool with
  | some _ => done ⟨.ok (), m, []⟩
  | none => ask .openPool fun
    | .error e => done ⟨.error (e.during name .connect), m, []⟩
    | .ok pool =>
      done ⟨.ok (), { m with pool := some pool, ownsPool := true }, [.connected name none]⟩

def abandon : Script P H (Pooled P H × List Event) :=
  match m.transaction with
  | none => done (m, [])
  | some h => ask (.rollback h) fun r => ask (.release h) fun _ =>
    done ({ m with transaction := none }, match r with
      | .ok _ => []
      | .error e => [.abandoned name e])

def leave : Script P H (Outcome (Pooled P H) Unit) :=
  match m.pool with
  | none => done ⟨.ok (), m, []⟩
  | some pool =>
    if m.ownsPool then
      ask (.close pool) fun
        | .error e => done ⟨.error (e.during name .disconnect), { m with pool := none }, []⟩
        | .ok _ => done ⟨.ok (), { m with pool := none }, [.disconnected name]⟩
    else done ⟨.ok (), { m with pool := none }, [.detached name]⟩

def disconnect : Script P H (Outcome (Pooled P H) Unit) :=
  (abandon name m).andThen fun (m, events) => (leave name m).map (Outcome.after events)

def statement (pool : P) (sql : String) (params : List Value) :
    Script P H (Except DriverError RawOutput) :=
  match m.transaction with
  | some h => ask (.execute h sql params) done
  | none => ask (.acquire pool) fun
    | .error e => done (.error e)
    | .ok h => ask (.execute h sql params) fun output => ask (.release h) fun _ => done output

def query (sql : String) (params : List Value) : Script P H (Outcome (Pooled P H) QueryResult) :=
  match m.pool with
  | none => done ⟨.error (Pooled.notConnected name), m, []⟩
  | some pool => (statement m pool sql params).map fun
    | .error e => ⟨.error (e.during name .query), m, []⟩
    | .ok raw => ⟨.ok (.ofRaw sql params raw), m, [.queried name raw.count m.inTransaction]⟩

def begin : Script P H (Outcome (Pooled P H) Unit) :=
  match m.transaction, m.pool with
  | some _, _ => done ⟨.error (.state "transaction already in progress"), m, []⟩
  | none, none => done ⟨.error (Pooled.notConnected name), m, []⟩
  | none, some pool => ask (.acquire pool) fun
    | .error e => done ⟨.error (e.during name .beginTransaction), m, []⟩
    | .ok h => ask (.begin h) fun
      | .error e => ask (.release h) fun _ =>
        done ⟨.error (e.during name .beginTransaction), m, []⟩
      | .ok _ => done ⟨.ok (), { m with transaction := some h }, [.begun name]⟩

def commit : Script P H (Outcome (Pooled P H) Unit) :=
  match m.transaction with
  | none => done ⟨.error Pooled.noTransaction, m, []⟩
  | some h =>
    let m := { m with transaction := none }
    ask (.commit h) fun
      | .ok _ => ask (.release h) fun _ => done ⟨.ok (), m, [.committed name]⟩
      | .error e => ask (.rollback h) fun r => ask (.release h) fun _ =>
        done ⟨.error (e.during name .commit), m, match r with
          | .ok _ => []
          | .error r => [.stranded name r]⟩

def rollback : Script P H (Outcome (Pooled P H) Unit) :=
  match m.transaction with
  | none => done ⟨.error Pooled.noTransaction, m, []⟩
  | some h =>
    let m := { m with transaction := none }
    ask (.rollback h) fun r => ask (.release h) fun _ =>
      done (match r with
        | .ok _ => ⟨.ok (), m, [.rolledBack name]⟩
        | .error e => ⟨.error (e.during name .rollback), m, []⟩)

/-- The script of a request. -/
def perform : Request → Script P H (Outcome (Pooled P H) (Option QueryResult))
  | .connect => (connect name m).map (Outcome.map fun _ => none)
  | .disconnect => (disconnect name m).map (Outcome.map fun _ => none)
  | .query sql params => (query name m sql params).map (Outcome.map some)
  | .begin => (begin name m).map (Outcome.map fun _ => none)
  | .commit => (commit name m).map (Outcome.map fun _ => none)
  | .rollback => (rollback name m).map (Outcome.map fun _ => none)

end Operations

/-! ### Scripts and operations -/

/-- The outcome of a script that runs to its end. -/
def outcome (d : PoolDriver σ P H) (s : Script P H (Outcome (Pooled P H) α)) (w : σ) :
    Outcome (Pooled.World σ P H) α :=
  (s.run d w).1.lift fun m => (m, (s.run d w).2)

section Equal

variable (d : PoolDriver σ P H) (m : Pooled P H) (w : σ)

theorem outcome_map (f : α → β) (s : Script P H (Outcome (Pooled P H) α)) :
    (s.map (Outcome.map f)).outcome d w = (s.outcome d w).map f := by
  rw [outcome, run_map]
  rfl

theorem connect_eq : Pooled.connect d m w = (connect d.name m).outcome d w := by
  obtain ⟨_ | p, owns, x⟩ := m
  · simp only [Pooled.connect, connect, outcome, run, PoolDriver.answer]
    rcases d.openPool w with ⟨e | p, v⟩ <;> rfl
  · rfl

theorem leave_eq : Pooled.leave d m w = (leave d.name m).outcome d w := by
  obtain ⟨_ | p, _ | _, x⟩ := m
  · rfl
  · rfl
  · rfl
  · simp only [Pooled.leave, leave, outcome, run, PoolDriver.answer, if_true]
    rcases d.close p w with ⟨e | u, v⟩ <;> rfl

theorem abandon_eq :
    Pooled.abandon d m w =
      let s := (abandon d.name m).run d w
      ((s.1.1, s.2), s.1.2) := by
  obtain ⟨p, owns, _ | h⟩ := m
  · rfl
  · simp only [Pooled.abandon, abandon, run, PoolDriver.answer]
    rcases d.rollback h w with ⟨e | u, v⟩ <;> rfl

theorem disconnect_eq : Pooled.disconnect d m w = (disconnect d.name m).outcome d w := by
  rw [Pooled.disconnect_eq, abandon_eq, disconnect]
  simp only [leave_eq, outcome, run_andThen, run_map]
  rfl

theorem query_eq (sql : String) (params : List Value) :
    Pooled.query d sql params m w = (query d.name m sql params).outcome d w := by
  obtain ⟨_ | p, owns, _ | h⟩ := m
  · rfl
  · rfl
  · simp only [Pooled.query, Pooled.run, query, statement, outcome, run_map, run, PoolDriver.answer]
    rcases d.acquire p w with ⟨e | h, v⟩
    · rfl
    · simp only [run, PoolDriver.answer]
      rcases hx : d.execute h sql params v with ⟨e | raw, u⟩ <;> simp only [hx] <;> rfl
  · simp only [Pooled.query, Pooled.run, query, statement, outcome, run_map, run, PoolDriver.answer]
    rcases d.execute h sql params w with ⟨e | raw, v⟩ <;> rfl

theorem begin_eq : Pooled.begin d m w = (begin d.name m).outcome d w := by
  obtain ⟨_ | p, owns, _ | h⟩ := m
  · rfl
  · rfl
  · simp only [Pooled.begin, begin, outcome, run, PoolDriver.answer]
    rcases d.acquire p w with ⟨e | h, v⟩
    · rfl
    · simp only [run, PoolDriver.answer]
      rcases d.begin h v with ⟨e | u, v⟩ <;> rfl
  · rfl

theorem commit_eq : Pooled.commit d m w = (commit d.name m).outcome d w := by
  obtain ⟨p, owns, _ | h⟩ := m
  · rfl
  · simp only [Pooled.commit, commit, outcome, run, PoolDriver.answer]
    rcases d.commit h w with ⟨e | u, v⟩
    · simp only [run, PoolDriver.answer]
      rcases d.rollback h v with ⟨r | u, v⟩ <;> rfl
    · rfl

theorem rollback_eq : Pooled.rollback d m w = (rollback d.name m).outcome d w := by
  obtain ⟨p, owns, _ | h⟩ := m
  · rfl
  · simp only [Pooled.rollback, rollback, outcome, run, PoolDriver.answer]
    rcases d.rollback h w with ⟨e | u, v⟩ <;> rfl

/-- What comes of a request is what its script comes to. -/
theorem perform_eq_outcome (r : Request) :
    (Pooled.manager d).perform r (m, w) = (perform d.name m r).outcome d w := by
  cases r with
  | connect => exact (congrArg _ (connect_eq d m w)).trans (outcome_map d w _ _).symm
  | disconnect => exact (congrArg _ (disconnect_eq d m w)).trans (outcome_map d w _ _).symm
  | query sql params =>
    exact (congrArg _ (query_eq d m w sql params)).trans (outcome_map d w _ _).symm
  | begin => exact (congrArg _ (begin_eq d m w)).trans (outcome_map d w _ _).symm
  | commit => exact (congrArg _ (commit_eq d m w)).trans (outcome_map d w _ _).symm
  | rollback => exact (congrArg _ (rollback_eq d m w)).trans (outcome_map d w _ _).symm

end Equal

end Script

end FluentSql
