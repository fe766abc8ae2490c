import FluentSql.Proofs.Connection.Recorded

/-! The life of a pooled manager. A machine of three phases tells, for each request and whatever the
driver answers, the calls that are made, the error that is reported and the phase that follows.
Every request of every run is such a move, `run_follows_moves`; on the way a transaction is never
seen without a pool. -/

namespace FluentSql

/-! ### The machine -/

/-- A call of a driver, without the pool or handle that it is about. -/
inductive DriverStep where
  | openPool
  | acquire
  | execute (sql : String) (params : List Value)
  | begin
  | commit
  | rollback
  | release
  | close

/-- The failures that the calls of a request meet, each where it is made. -/
structure Failures where
  openPool : Option DriverError := none
  acquire : Option DriverError := none
  execute : Option DriverError := none
  begin : Option DriverError := none
  commit : Option DriverError := none
  rollback : Option DriverError := none
  close : Option DriverError := none

/-- The entry in the record for a call on this pool or this handle. -/
@[simp] def DriverStep.event (pool handle : Nat) (fails : Failures) : DriverStep → DriverEvent
  | openPool =>
    match fails.openPool with
    | none => .opened pool
    | some e => .openFailed e
  | acquire =>
    match fails.acquire with
    | none => .on handle (.acquire pool)
    | some e => .acquireFailed pool e
  | execute sql params => .on handle (.execute sql params fails.execute)
  | begin => .on handle (.begin fails.begin)
  | commit => .on handle (.commit fails.commit)
  | rollback => .on handle (.rollback fails.rollback)
  | release => .on handle .release
  | close => .closed pool fails.close

/-- What a client sees of a manager, and whether the pool is the manager's to close. -/
inductive Phase where
  | disconnected
  | idle (owned : Bool)
  | inTransaction (owned : Bool)
  deriving DecidableEq, Repr

/-- What a request does: the calls in order, the error if there is one, and the phase after it. -/
structure Move where
  calls : List DriverStep
  error : Option Error
  next : Phase

namespace Phase

@[simp] def connected : Phase → Bool
  | disconnected => false
  | idle _ | inTransaction _ => true

@[simp] def transacting : Phase → Bool
  | inTransaction _ => true
  | disconnected | idle _ => false

/-- Lets a pool go after these calls; only an own pool is closed. -/
def letGo (name : String) (fails : Failures) (before : List DriverStep) :
    Bool → Move
  | true => ⟨before ++ [.close], fails.close.map (·.during name .disconnect), disconnected⟩
  | false => ⟨before, none, disconnected⟩

/-- The move of a manager whose calls meet the failures `fails`. -/
def move (name : String) (fails : Failures) : Phase → Request → Move
  | disconnected, .connect =>
    match fails.openPool with
    | none => ⟨[.openPool], none, idle true⟩
    | some e => ⟨[.openPool], some (e.during name .connect), disconnected⟩
  | p, .connect => ⟨[], none, p⟩
  | disconnected, .disconnect => ⟨[], none, disconnected⟩
  | idle owned, .disconnect => letGo name fails [] owned
  -- The rollback goes first, and whatever comes of it the handle goes back and the pool is let go.
  | inTransaction owned, .disconnect => letGo name fails [.rollback, .release] owned
  | disconnected, .query _ _ => ⟨[], some (Pooled.notConnected name), disconnected⟩
  | idle owned, .query sql params =>
    match fails.acquire with
    | some e => ⟨[.acquire], some (e.during name .query), idle owned⟩
    | none =>
      ⟨[.acquire, .execute sql params, .release],
        fails.execute.map (·.during name .query), idle owned⟩
  | inTransaction owned, .query sql params =>
    ⟨[.execute sql params], fails.execute.map (·.during name .query),
      inTransaction owned⟩
  | inTransaction owned, .begin =>
    ⟨[], some (.state "transaction already in progress"), inTransaction owned⟩
  | disconnected, .begin => ⟨[], some (Pooled.notConnected name), disconnected⟩
  | idle owned, .begin =>
    match fails.acquire, fails.begin with
    | some e, _ => ⟨[.acquire], some (e.during name .beginTransaction), idle owned⟩
    | none, some e =>
      ⟨[.acquire, .begin, .release], some (e.during name .beginTransaction), idle owned⟩
    | none, none => ⟨[.acquire, .begin], none, inTransaction owned⟩
  | inTransaction owned, .commit =>
    match fails.commit with
    | none => ⟨[.commit, .release], none, idle owned⟩
    | some e => ⟨[.commit, .rollback, .release], some (e.during name .commit), idle owned⟩
  | p, .commit => ⟨[], some Pooled.noTransaction, p⟩
  | inTransaction owned, .rollback =>
    ⟨[.rollback, .release], fails.rollback.map (·.during name .rollback), idle owned⟩
  | p, .rollback => ⟨[], some Pooled.noTransaction, p⟩

end Phase

/-! ### Moves of a manager -/

namespace Pooled

variable {σ P H : Type}

def phase (m : Pooled P H) : Phase :=
  if m.isConnected then
    if m.inTransaction then .inTransaction m.ownsPool else .idle m.ownsPool
  else .disconnected

/-- The number of the pool in use, or else of the one to be opened next. -/
def poolNumber (s : RecordedWorld σ P H) : Nat :=
  (s.1.pool.map Prod.fst).getD s.2.nextPool

/-- The number of the handle of the transaction, or else of the one to be handed out next. -/
def handleNumber (s : RecordedWorld σ P H) : Nat :=
  (s.1.transaction.map Prod.fst).getD s.2.nextHandle

/-- The outcome of a request is a move: its error, the phase after it, its calls on the pool and the
handle of the manager, and what the manager keeps of the two. -/
structure Follows (name : String) (fails : Failures) (r : Request)
    (s : RecordedWorld σ P H) (o : Outcome (RecordedWorld σ P H) (Option QueryResult)) : Prop where
  error : o.error? = (s.1.phase.move name fails r).error
  phase : o.next.1.phase = (s.1.phase.move name fails r).next
  log : o.next.2.log = s.2.log ++ (s.1.phase.move name fails r).calls.map
    (·.event (poolNumber s) (handleNumber s) fails)
  pool : o.next.1.pool.map Prod.fst =
    if (s.1.phase.move name fails r).next.connected then some (poolNumber s) else none
  handle : o.next.1.transaction.map Prod.fst =
    if (s.1.phase.move name fails r).next.transacting then some (handleNumber s) else none

/-- A transaction has a pool. -/
def Sound (m : Pooled P H) : Prop :=
  m.inTransaction → m.isConnected

variable (d : PoolDriver σ P H) (m : Pooled (Nat × P) (Nat × H)) (w : Recorded σ)

open PoolDriver

/-- Three calls noted one after the other. -/
theorem append_three (l : List DriverEvent) (a b c : DriverEvent) :
    l ++ [a] ++ [b] ++ [c] = l ++ [a, b, c] := by
  rw [List.append_assoc, List.append_assoc]
  rfl

theorem follows_connect (h : m.Sound) :
    ∃ fails, Follows d.name fails .connect (m, w)
      ((manager d.recorded).perform .connect (m, w)) := by
  -- No pool; a transaction without one, which is not sound; a pool; a pool and a transaction.
  obtain ⟨_ | p, owns, _ | x⟩ := m
  · simp only [Manager.perform, manager, connect, recorded_openPool]
    rcases d.openPool w.world with ⟨e | p, v⟩
    · exact ⟨{ openPool := some e }, rfl, rfl, rfl, rfl, rfl⟩
    · exact ⟨{}, rfl, rfl, rfl, rfl, rfl⟩
  · exact absurd (h rfl) Bool.false_ne_true
  · exact ⟨{}, rfl, rfl, (List.append_nil _).symm, rfl, rfl⟩
  · exact ⟨{}, rfl, rfl, (List.append_nil _).symm, rfl, rfl⟩

/-- A transaction that is abandoned is rolled back, and its handle goes back whatever came of it. -/
theorem abandon_of_transaction (pool : Option (Nat × P)) (owns : Bool) (x : Nat × H) :
    ∃ failure v u, (abandon d.recorded ⟨pool, owns, some x⟩ w).1 =
      (⟨pool, owns, none⟩,
        (w.note v (.on x.1 (.rollback failure))).note u (.on x.1 .release)) := by
  simp only [abandon, recorded_rollback, recorded_release]
  rcases d.rollback x.2 w.world with ⟨e | u, v⟩
  · exact ⟨some e, v, d.release x.2 v, rfl⟩
  · exact ⟨none, v, d.release x.2 v, rfl⟩

theorem follows_disconnect (h : m.Sound) :
    ∃ fails, Follows d.name fails .disconnect (m, w)
      ((manager d.recorded).perform .disconnect (m, w)) := by
  obtain ⟨_ | p, owns, _ | x⟩ := m
  · exact ⟨{}, rfl, rfl, (List.append_nil _).symm, rfl, rfl⟩
  · exact absurd (h rfl) Bool.false_ne_true
  · cases owns with
    | false => exact ⟨{}, rfl, rfl, (List.append_nil _).symm, rfl, rfl⟩
    | true =>
      simp only [Manager.perform, manager, disconnect, abandon, leave, recorded_close]
      rcases d.close p.2 w.world with ⟨e | u, v⟩
      · exact ⟨{ close := some e }, rfl, rfl, rfl, rfl, rfl⟩
      · exact ⟨{}, rfl, rfl, rfl, rfl, rfl⟩
  · obtain ⟨f, v, u, ha⟩ := abandon_of_transaction d w (some p) owns x
    simp only [Manager.perform, manager, disconnect_eq]
    rw [ha]
    cases owns with
    | false => exact ⟨{ rollback := f }, rfl, rfl, List.append_assoc _ [_] [_], rfl, rfl⟩
    | true =>
      simp only [leave, recorded_close, Recorded.world_note]
      rcases d.close p.2 u with ⟨e | y, v⟩
      · exact ⟨{ rollback := f, close := some e }, rfl, rfl, append_three _ _ _ _, rfl, rfl⟩
      · exact ⟨{ rollback := f }, rfl, rfl, append_three _ _ _ _, rfl, rfl⟩

theorem follows_query (sql : String) (params : List Value) (h : m.Sound) :
    ∃ fails, Follows d.name fails (.query sql params) (m, w)
      ((manager d.recorded).perform (.query sql params) (m, w)) := by
  obtain ⟨_ | p, owns, _ | x⟩ := m
  · exact ⟨{}, rfl, rfl, (List.append_nil _).symm, rfl, rfl⟩
  · exact absurd (h rfl) Bool.false_ne_true
  · simp only [Manager.perform, manager, query, run, recorded_acquire]
    rcases d.acquire p.2 w.world with ⟨e | x, v⟩
    · exact ⟨{ acquire := some e }, rfl, rfl, rfl, rfl, rfl⟩
    · simp only [recorded_execute, recorded_release, Recorded.world_note]
      rcases d.execute x sql params v with ⟨e | raw, u⟩
      · exact ⟨{ execute := some e }, rfl, rfl, append_three _ _ _ _, rfl, rfl⟩
      · exact ⟨{}, rfl, rfl, append_three _ _ _ _, rfl, rfl⟩
  · simp only [Manager.perform, manager, query, run, recorded_execute]
    rcases d.execute x.2 sql params w.world with ⟨e | raw, v⟩
    · exact ⟨{ execute := some e }, rfl, rfl, rfl, rfl, rfl⟩
    · exact ⟨{}, rfl, rfl, rfl, rfl, rfl⟩

theorem follows_begin (h : m.Sound) :
    ∃ fails, Follows d.name fails .begin (m, w)
      ((manager d.recorded).perform .begin (m, w)) := by
  obtain ⟨_ | p, owns, _ | x⟩ := m
  · exact ⟨{}, rfl, rfl, (List.append_nil _).symm, rfl, rfl⟩
  · exact absurd (h rfl) Bool.false_ne_true
  · simp only [Manager.perform, manager, begin, recorded_acquire]
    rcases d.acquire p.2 w.world with ⟨e | x, v⟩
    · exact ⟨{ acquire := some e }, rfl, rfl, rfl, rfl, rfl⟩
    · simp only [recorded_begin, recorded_release, Recorded.world_note]
      rcases d.begin x v with ⟨e | y, u⟩
      · exact ⟨{ begin := some e }, rfl, rfl, append_three _ _ _ _, rfl, rfl⟩
      · exact ⟨{}, rfl, rfl, List.append_assoc _ [_] [_], rfl, rfl⟩
  · exact ⟨{}, rfl, rfl, (List.append_nil _).symm, rfl, rfl⟩

theorem follows_commit (h : m.Sound) :
    ∃ fails, Follows d.name fails .commit (m, w)
      ((manager d.recorded).perform .commit (m, w)) := by
  obtain ⟨_ | p, owns, _ | x⟩ := m
  · exact ⟨{}, rfl, rfl, (List.append_nil _).symm, rfl, rfl⟩
  · exact absurd (h rfl) Bool.false_ne_true
  · exact ⟨{}, rfl, rfl, (List.append_nil _).symm, rfl, rfl⟩
  · simp only [Manager.perform, manager, commit, recorded_commit]
    rcases d.commit x.2 w.world with ⟨e | y, v⟩
    · simp only [recorded_rollback, recorded_release, Recorded.world_note]
      rcases d.rollback x.2 v with ⟨r | y, u⟩
      · exact ⟨{ commit := some e, rollback := some r }, rfl, rfl, append_three _ _ _ _, rfl, rfl⟩
      · exact ⟨{ commit := some e }, rfl, rfl, append_three _ _ _ _, rfl, rfl⟩
    · exact ⟨{}, rfl, rfl, List.append_assoc _ [_] [_], rfl, rfl⟩

theorem follows_rollback (h : m.Sound) :
    ∃ fails, Follows d.name fails .rollback (m, w)
      ((manager d.recorded).perform .rollback (m, w)) := by
  obtain ⟨_ | p, owns, _ | x⟩ := m
  · exact ⟨{}, rfl, rfl, (List.append_nil _).symm, rfl, rfl⟩
  · exact absurd (h rfl) Bool.false_ne_true
  · exact ⟨{}, rfl, rfl, (List.append_nil _).symm, rfl, rfl⟩
  · simp only [Manager.perform, manager, rollback, recorded_rollback]
    rcases d.rollback x.2 w.world with ⟨e | y, v⟩
    · exact ⟨{ rollback := some e }, rfl, rfl, List.append_assoc _ [_] [_], rfl, rfl⟩
    · exact ⟨{}, rfl, rfl, List.append_assoc _ [_] [_], rfl, rfl⟩

/-- Every request of a sound manager is a move. -/
theorem perform_follows (r : Request) (s : RecordedWorld σ P H) (h : s.1.Sound) :
    ∃ fails, Follows d.name fails r s ((manager d.recorded).perform r s) := by
  obtain ⟨m, w⟩ := s
  cases r with
  | connect => exact follows_connect d m w h
  | disconnect => exact follows_disconnect d m w h
  | query sql params => exact follows_query d m w sql params h
  | begin => exact follows_begin d m w h
  | commit => exact follows_commit d m w h
  | rollback => exact follows_rollback d m w h

/-! ### Runs -/

theorem connected_of_transacting {p : Phase} (h : p.transacting) : p.connected := by
  cases p with
  | disconnected => exact h
  | idle owned => rfl
  | inTransaction owned => rfl

/-- What a move leaves behind is sound again. -/
theorem Follows.sound {name : String} {fails : Failures} {r : Request}
    {s : RecordedWorld σ P H} {o : Outcome (RecordedWorld σ P H) (Option QueryResult)}
    (h : Follows name fails r s o) : o.next.1.Sound := by
  intro ht
  have hn : (s.1.phase.move name fails r).next.transacting := by
    rw [inTransaction, ← Option.isSome_map, h.handle] at ht
    split at ht
    next hn => exact hn
    next => exact absurd ht Bool.false_ne_true
  rw [isConnected, ← Option.isSome_map, h.pool, if_pos (connected_of_transacting hn)]
  rfl

theorem sound_run (shared : Option P) (w : σ) (rs : List Request) :
    ((manager d.recorded).run rs (recorded shared w)).1.Sound := by
  refine (manager d.recorded).run_induction (P := fun s => s.1.Sound) ?_ rs ?_
  · intro r s hs
    obtain ⟨fails, hf⟩ := perform_follows d r s hs
    exact hf.sound
  · cases shared <;> exact fun h => absurd h Bool.false_ne_true

/-- A manager starts out disconnected, or idle on a pool that it shares, and never has a transaction
without a pool. Whatever the driver answers, each request after any run is the move of the machine,
and so is what the manager does on the driver itself. -/
theorem run_follows_moves (shared : Option P) (w : σ) (rs : List Request) (r : Request) :
    let s := (manager d.recorded).run rs (recorded shared w)
    let o := (manager d.recorded).perform r s
    (fresh shared : Pooled P H).phase = (if shared.isSome then .idle false else .disconnected) ∧
      (s.1.inTransaction → s.1.isConnected) ∧
      o.lift forget = (manager d).perform r ((manager d).run rs (fresh shared, w)) ∧
      ∃ fails, Follows d.name fails r s o := by
  intro s o
  refine ⟨?_, sound_run d shared w rs, ?_, perform_follows d r s (sound_run d shared w rs)⟩
  · cases shared <;> rfl
  · rw [← forget_run_recorded]
    exact forget_perform d r s

end Pooled

end FluentSql
