import FluentSql.Proofs.Connection.Single
import FluentSql.Sqlite.Engine

/-! The flag of an embedded manager, which stands for the transaction of its engine. A transaction
can be ended in any way and at any time, `Embedded.endable`; and where the statements about
transactions switch the engine's transaction or fail, as they do in memory, the flag tells of it
truly, `Embedded.run_truthful`. -/

namespace FluentSql

variable {τ : Type}

/-! ### Ending a transaction -/

namespace Embedded

variable (e : Engine τ)

/-- What becomes of a transaction is for the engine to decide at each commit and each rollback; a
disconnect rolls it back, closes the connection and is rid of both whatever comes of that. -/
structure Endable (m : Embedded) (w : τ) : Prop where
  commit : (commit e m w).result.isOk = (e.commit w).1.isOk
  committed : (Embedded.commit e m w).next =
    ({ m with inTransaction := !(e.commit w).1.isOk }, (e.commit w).2)
  rollback : (rollback e m w).result.isOk = (e.rollback w).1.isOk
  rolledBack : (Embedded.rollback e m w).next =
    ({ m with inTransaction := !(e.rollback w).1.isOk }, (e.rollback w).2)
  disconnect : (disconnect e m w).next = ({ path := m.path }, (e.close (e.rollback w).2).2)

theorem fst_abandon (path : String) (c : Bool) (w : τ) :
    (abandon e ⟨path, c, true⟩ w).1 = (e.rollback w).2 := by
  simp only [abandon, if_true]
  rcases e.rollback w with ⟨f | u, x⟩ <;> rfl

theorem next_disconnect (path : String) (i : Bool) (w : τ) :
    (disconnect e ⟨path, true, i⟩ w).next =
      ({ path }, (e.close (abandon e ⟨path, true, i⟩ w).1).2) := by
  rw [disconnect_of_connected]
  rcases abandon e ⟨path, true, i⟩ w with ⟨x, events⟩
  simp only
  rcases e.close x with ⟨f | u, y⟩ <;> rfl

/-- A call that is to end a transaction ends it if it succeeds, and then only. -/
theorem control_ends (call : DriverCall τ Unit) (operation : Operation) (event : Event)
    (path : String) (w : τ) :
    let o := control e call operation false event ⟨path, true, true⟩ w
    o.result.isOk = (call w).1.isOk ∧ o.next = (⟨path, true, !(call w).1.isOk⟩, (call w).2) := by
  simp only [control, if_true]
  rcases call w with ⟨f | u, x⟩ <;> exact ⟨rfl, rfl⟩

theorem endable {m : Embedded} (hc : m.isConnected) (ht : m.inTransaction) (w : τ) :
    Endable e m w := by
  obtain ⟨path, _, _⟩ := m
  simp only at hc ht
  subst hc ht
  obtain ⟨hc, hc'⟩ := control_ends e e.commit .commit (.committed e.name) path w
  obtain ⟨hr, hr'⟩ := control_ends e e.rollback .rollback (.rolledBack e.name) path w
  refine ⟨hc, hc', hr, hr', ?_⟩
  rw [next_disconnect, fst_abandon]

end Embedded

/-! ### The engine's transaction -/

/-- A call that succeeds leaves a transaction open or not, as `opens` says; one that fails leaves it
as it was. -/
def DriverCall.Sets (isOpen : τ → Bool) (opens : Bool) (c : DriverCall τ Unit) : Prop :=
  ∀ w, isOpen (c w).2 = if (c w).1.isOk then opens else isOpen w

/-- The statements about transactions do what they say, or nothing; a connection that has just been
opened has no transaction. -/
structure Engine.Switches (e : Engine τ) (isOpen : τ → Bool) : Prop where
  openPath : ∀ path w, (e.openPath path w).1.isOk → isOpen (e.openPath path w).2 = false
  begin : DriverCall.Sets isOpen true e.begin
  commit : DriverCall.Sets isOpen false e.commit
  rollback : DriverCall.Sets isOpen false e.rollback

/-- A call of the engine in memory changes its database only if it succeeds. -/
theorem Sqlite.sets_control {f : Database → Except DriverError Database} {opens : Bool}
    (h : ∀ db next, f db = .ok next → next.saved.isSome = opens) :
    DriverCall.Sets (·.saved.isSome) opens (control f) := by
  intro db
  rw [control]
  cases hf : f db with
  | error e => rfl
  | ok next => exact h db next hf

/-- A transaction of the engine in memory is open as long as there is something to roll back to. -/
theorem Sqlite.switches_engine : engine.Switches (·.saved.isSome) where
  openPath path db h := by
    simp only [engine, control] at h ⊢
    cases ho : openPath path with
    | error e =>
      rw [ho] at h
      cases h
    | ok new =>
      rw [openPath] at ho
      split at ho
      · cases ho
      · split at ho <;> cases ho
        rfl
  begin := sets_control fun db next h => by
    obtain ⟨tables, _ | saved, changes⟩ := db <;> cases h
    rfl
  commit := sets_control fun db next h => by
    obtain ⟨tables, _ | saved, changes⟩ := db <;> cases h
    rfl
  rollback := sets_control fun db next h => by
    obtain ⟨tables, _ | saved, changes⟩ := db <;> cases h
    rfl

/-- The request does not begin or end a transaction by a statement of its own. -/
def Request.Quiet (e : Engine τ) (isOpen : τ → Bool) : Request → Prop
  | .query sql params => ∀ w, isOpen (e.execute sql params w).2 = isOpen w
  | _ => True

namespace Embedded

variable {e : Engine τ} {isOpen : τ → Bool}

/-- The flag tells of the transaction that the engine has open on the connection. -/
def Truthful (isOpen : τ → Bool) (s : World τ) : Prop :=
  s.1.inTransaction = (s.1.isConnected && isOpen s.2)

theorem control_truthful {call : DriverCall τ Unit} {opens : Bool} (hc : call.Sets isOpen opens)
    (operation : Operation) (event : Event) {m : Embedded} {w : τ} (h : Truthful isOpen (m, w)) :
    Truthful isOpen (control e call operation opens event m w).next := by
  obtain ⟨path, _ | _, i⟩ := m
  · exact h
  · have hw := hc w
    simp only [control, if_true]
    rcases hx : call w with ⟨f | u, x⟩ <;> rw [hx] at hw
    · exact Eq.trans h hw.symm
    · exact hw.symm

/-- What one request keeps. -/
theorem perform_truthful (he : e.Switches isOpen) {r : Request} (hr : r.Quiet e isOpen)
    {s : World τ} (h : Truthful isOpen s) : Truthful isOpen ((manager e).perform r s).next := by
  obtain ⟨m, w⟩ := s
  cases r with
  | connect =>
    obtain ⟨path, _ | _, i⟩ := m
    · have hw := he.openPath path w
      simp only [Manager.perform, manager, connect]
      rcases hx : e.openPath path w with ⟨f | u, x⟩ <;> rw [hx] at hw
      · exact h
      · exact Eq.trans h (hw rfl).symm
    · exact h
  | disconnect =>
    obtain ⟨path, _ | _, i⟩ := m
    · exact h
    · have hn := next_disconnect e path i w
      show Truthful isOpen (disconnect e ⟨path, true, i⟩ w).next
      rw [hn]
      rfl
  | query sql params =>
    obtain ⟨path, _ | _, i⟩ := m
    · exact h
    · have hw := hr w
      simp only [Manager.perform, manager, query]
      rcases hx : e.execute sql params w with ⟨f | u, x⟩ <;> rw [hx] at hw
      · exact Eq.trans h hw.symm
      · exact Eq.trans h hw.symm
  | begin =>
    show Truthful isOpen (begin e m w).next
    rw [begin]
    split
    · exact h
    · exact control_truthful he.begin _ _ h
  | commit =>
    show Truthful isOpen (commit e m w).next
    rw [commit]
    split
    · exact control_truthful he.commit _ _ h
    · exact h
  | rollback =>
    show Truthful isOpen (rollback e m w).next
    rw [rollback]
    split
    · exact control_truthful he.rollback _ _ h
    · exact h

/-- What a run keeps. -/
theorem run_truthful (he : e.Switches isOpen) {rs : List Request}
    (hr : ∀ r ∈ rs, r.Quiet e isOpen) {s : World τ} (h : Truthful isOpen s) :
    Truthful isOpen ((manager e).run rs s) := by
  induction rs generalizing s with
  | nil => exact h
  | cons r rs ih =>
    obtain ⟨hr, hrs⟩ := List.forall_mem_cons.1 hr
    exact ih hrs (perform_truthful he hr h)

end Embedded

end FluentSql
