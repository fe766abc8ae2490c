import FluentSql.Proofs.Connection.Hold
import Mathlib.Logic.Function.Basic

/-! Many managers on one pool. Each of them works at one operation at a time, and between any two
calls of it the others go on with theirs; where none of them has a turn, the operation is the
manager's own, `run_operation`. In every run each call agrees with what its manager has by its own
calls so far, `kept_run`. -/

namespace FluentSql

variable {ι σ P H : Type}

/-! ### Fleets -/

/-- A manager between operations, or what is left of its operation. -/
inductive Agent (P H : Type) where
  | resting (m : Pooled P H)
  | working (r : Request) (s : Script P H (Outcome (Pooled P H) (Option QueryResult)))

/-- A call of the driver: who made it, in which operation, and what the driver answered. -/
structure Entry (ι P H : Type) where
  author : ι
  request : Request
  asked : DriverAsk P H
  reply : asked.Reply

/-- Managers that share a driver's world, with all their calls so far. -/
structure Fleet (ι σ P H : Type) where
  agent : ι → Agent P H
  world : σ
  log : List (Entry ι P H) := []

/-- A manager is asked for an operation, or goes on with its own by one call. -/
inductive Turn (ι : Type) where
  | start (i : ι) (r : Request)
  | go (i : ι)

namespace Fleet

/-- All managers have been handed the same pool. -/
def ofPool (shared : P) (w : σ) : Fleet ι σ P H :=
  { agent := fun _ => .resting (.ofPool shared), world := w }

variable [DecidableEq ι] (d : PoolDriver σ P H)

def set (f : Fleet ι σ P H) (i : ι) (a : Agent P H) : Fleet ι σ P H :=
  { f with agent := Function.update f.agent i a }

theorem agent_set_self (f : Fleet ι σ P H) (i : ι) (a : Agent P H) : (f.set i a).agent i = a := by
  simp [set]

theorem agent_set_of_ne {f : Fleet ι σ P H} {i j : ι} {a : Agent P H} (h : j ≠ i) :
    (f.set i a).agent j = f.agent j := by
  simp [set, h]

/-- A turn of a manager. One that is at work is not asked for anything else, and one that rests has
nothing to go on with. -/
def turn (f : Fleet ι σ P H) : Turn ι → Fleet ι σ P H
  | .start i r =>
    match f.agent i with
    | .resting m => f.set i (.working r (.perform d.name m r))
    | .working _ _ => f
  | .go i =>
    match f.agent i with
    | .resting _ => f
    | .working _ (.done o) => f.set i (.resting o.next)
    | .working r (.ask a next) =>
      let (reply, w) := d.answer a f.world
      { f.set i (.working r (next reply)) with world := w, log := f.log ++ [⟨i, r, a, reply⟩] }

def run (turns : List (Turn ι)) (f : Fleet ι σ P H) : Fleet ι σ P H :=
  turns.foldl (turn d) f

/-- What every turn keeps, a run keeps. -/
theorem run_induction {R : Fleet ι σ P H → Prop} (step : ∀ f t, R f → R (f.turn d t))
    (turns : List (Turn ι)) {f : Fleet ι σ P H} (h : R f) : R (f.run d turns) := by
  induction turns generalizing f with
  | nil => exact h
  | cons t turns ih => exact ih (step f t h)

/-- A manager that is at work and goes on alone comes to the end of its script. -/
theorem run_script {f : Fleet ι σ P H} {i : ι} {r : Request}
    {s : Script P H (Outcome (Pooled P H) (Option QueryResult))} (hi : f.agent i = .working r s) :
    ∃ n, let g := f.run d (.replicate n (.go i))
      g.agent = Function.update f.agent i (.resting (s.run d f.world).1.next) ∧
        g.world = (s.run d f.world).2 := by
  induction s generalizing f with
  | done o =>
    refine ⟨1, ?_⟩
    simp [run, turn, hi, set, Script.run]
  | ask a next ih =>
    have ht : f.turn d (.go i) =
        { f.set i (.working r (next (d.answer a f.world).1)) with
          world := (d.answer a f.world).2
          log := f.log ++ [⟨i, r, a, (d.answer a f.world).1⟩] } := by
      simp only [turn, hi]
    have hn : (f.turn d (.go i)).agent i = .working r (next (d.answer a f.world).1) := by
      rw [ht]
      exact agent_set_self f i _
    obtain ⟨n, hg, hw⟩ := ih _ hn
    refine ⟨n + 1, hg.trans ?_, hw.trans ?_⟩
    · rw [ht]
      exact Function.update_idem ..
    · rw [ht]
      rfl

/-- An operation in which no other manager has a turn is the manager's operation. -/
theorem run_operation {f : Fleet ι σ P H} {i : ι} {m : Pooled P H} (hi : f.agent i = .resting m)
    (r : Request) :
    ∃ n, let g := f.run d (.start i r :: .replicate n (.go i))
      let o := (Pooled.manager d).perform r (m, f.world)
      g.agent = Function.update f.agent i (.resting o.next.1) ∧ g.world = o.next.2 := by
  have ht : f.turn d (.start i r) = f.set i (.working r (.perform d.name m r)) := by
    simp only [turn, hi]
  obtain ⟨n, hg, hw⟩ := run_script d (f := f.turn d (.start i r)) (by
    rw [ht]
    exact agent_set_self f i _)
  refine ⟨n, hg.trans ?_, hw.trans ?_⟩
  · rw [ht, Script.perform_eq_outcome]
    exact Function.update_idem ..
  · rw [ht, Script.perform_eq_outcome]
    rfl

end Fleet

/-! ### Holds in a fleet -/

section Log

variable [DecidableEq ι]

/-- What a manager has behind these calls. -/
def hold (i : ι) (log : List (Entry ι P H)) : Hold P H :=
  log.foldl (fun x e => if e.author = i then x.after e.asked e.reply else x) {}

theorem hold_append (i : ι) (l l' : List (Entry ι P H)) :
    hold i (l ++ l') =
      l'.foldl (fun x e => if e.author = i then x.after e.asked e.reply else x) (hold i l) :=
  List.foldl_append

theorem hold_author (l : List (Entry ι P H)) (e : Entry ι P H) :
    hold e.author (l ++ [e]) = (hold e.author l).after e.asked e.reply := by
  simp [hold_append]

theorem hold_other {i : ι} (l : List (Entry ι P H)) {e : Entry ι P H} (h : e.author ≠ i) :
    hold i (l ++ [e]) = hold i l := by
  simp [hold_append, h]

/-- All calls in a record agree with what their managers had then. -/
def Agrees (shared : P) (log : List (Entry ι P H)) : Prop :=
  ∀ l e, l ++ [e] <+: log → (hold e.author l).Allows shared e.request e.asked

theorem Agrees.mono {shared : P} {l log : List (Entry ι P H)} (h : Agrees shared log)
    (hl : l <+: log) : Agrees shared l :=
  fun l' e he => h l' e (he.trans hl)

theorem Agrees.snoc {shared : P} {log : List (Entry ι P H)} {e : Entry ι P H}
    (h : Agrees shared log) (he : (hold e.author log).Allows shared e.request e.asked) :
    Agrees shared (log ++ [e]) := by
  intro l x hx
  rcases List.prefix_concat_iff.1 hx with heq | hx
  · obtain ⟨rfl, hxe⟩ := List.append_inj' heq rfl
    cases hxe
    exact he
  · exact h l x hx

/-- A manager, at rest or at work, and what it has. -/
def Agent.Keeps (shared : P) (x : Hold P H) : Agent P H → Prop
  | .resting m => x.Fits shared m
  | .working r s => s.Keeps shared r (Script.Rests shared) x

/-- Every manager keeps to what it has by its calls. -/
structure Fleet.Kept (shared : P) (f : Fleet ι σ P H) : Prop where
  agents : ∀ i, (f.agent i).Keeps shared (hold i f.log)
  calls : Agrees shared f.log

end Log

namespace Fleet

variable [DecidableEq ι] (d : PoolDriver σ P H) {shared : P}

theorem kept_ofPool (w : σ) : (ofPool shared w : Fleet ι σ P H).Kept shared where
  agents _ := .connected none (.inr ⟨rfl, rfl⟩)
  calls l e h := by simp [ofPool] at h

/-- Another manager goes on, and no other one sees it in the record. -/
theorem Kept.agents_set {f : Fleet ι σ P H} (h : f.Kept shared) {i : ι} {a : Agent P H}
    {log : List (Entry ι P H)} (ha : a.Keeps shared (hold i log))
    (hl : ∀ j, j ≠ i → hold j log = hold j f.log) (j : ι) :
    ((f.set i a).agent j).Keeps shared (hold j log) := by
  by_cases hj : j = i
  · subst hj
    rw [agent_set_self]
    exact ha
  · rw [agent_set_of_ne hj, hl j hj]
    exact h.agents j

theorem Kept.set {f : Fleet ι σ P H} (h : f.Kept shared) {i : ι} {a : Agent P H}
    (ha : a.Keeps shared (hold i f.log)) : (f.set i a).Kept shared :=
  ⟨h.agents_set ha fun _ _ => rfl, h.calls⟩

theorem Kept.turn {f : Fleet ι σ P H} (h : f.Kept shared) (t : Turn ι) :
    (f.turn d t).Kept shared := by
  cases t with
  | start i r =>
    have hi := h.agents i
    rw [Fleet.turn]
    cases ha : f.agent i with
    | resting m =>
      rw [ha] at hi
      exact h.set (Script.keeps_perform d.name r hi)
    | working r s => exact h
  | go i =>
    have hi := h.agents i
    rw [Fleet.turn]
    cases ha : f.agent i with
    | resting m => exact h
    | working r s =>
      rw [ha] at hi
      cases s with
      | done o => exact h.set hi
      | ask a next =>
        let e : Entry ι P H := ⟨i, r, a, (d.answer a f.world).1⟩
        refine ⟨h.agents_set ?_ ?_, h.calls.snoc (e := e) hi.1⟩
        · have hx : hold i (f.log ++ [e]) = (hold i f.log).after e.asked e.reply :=
            hold_author f.log e
          rw [hx]
          exact hi.2 _
        · intro j hj
          exact hold_other f.log (e := e) hj.symm

theorem kept_run (w : σ) (turns : List (Turn ι)) :
    ((ofPool shared w).run d turns).Kept shared :=
  run_induction d (fun _ t h => h.turn d t) turns (kept_ofPool w)

end Fleet

end FluentSql
