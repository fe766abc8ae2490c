import FluentSql.Client

/-! Bodies of transactions. A body makes calls of the builder and executes what was built, each in
view of all answers so far, and gives a result at last. It does nothing else with the manager: what
every execution keeps, a body keeps, `run_induction`. -/

namespace FluentSql

/-- A body is a tree: at each node a call and how to go on from its answer. -/
inductive Body (α : Type) where
  | done (r : Except Error α)
  | call (k : Call) (next : Except Error Unit → Body α)
  /-- Looks at the query under construction. -/
  | look (next : QueryState → Body α)
  | execute (next : Except Error QueryResult → Body α)

namespace Body

variable {μ ν α : Type}

/-- Executes for the rows alone. -/
def executeRows (next : Except Error (List Record) → Body α) : Body α :=
  .execute fun r => next (r.map QueryResult.rows)

section Run

variable (M : Manager μ)

def run : Body α → Client μ → Outcome (Client μ) α
  | done r, c => ⟨r, c, []⟩
  | call k next, c =>
    let o := c.call k
    ((next o.result).run o.next).after o.events
  | look next, c => (next c.state).run c
  | execute next, c =>
    let o := c.executeResult M
    ((next o.result).run o.next).after o.events

/-- The queries of a run that compiled when they were to be executed, in order. -/
def sent : Body α → Client μ → List BuiltQuery
  | done _, _ => []
  | call k next, c =>
    let o := c.call k
    (next o.result).sent o.next
  | look next, c => (next c.state).sent c
  | execute next, c =>
    let o := c.executeResult M
    (c.build M).toOption.toList ++ (next o.result).sent o.next

end Run

end Body

/-! ### Executions while connected -/

theorem Outcome.after_nil {σ α : Type} (o : Outcome σ α) : o.after [] = o :=
  rfl

namespace Client

variable {μ α : Type} {M : Manager μ}

theorem executeResult_of_isConnected {c : Client μ} (h : M.isConnected c.manager) :
    c.executeResult M = match c.build M with
      | .error e => ⟨.error e, c, []⟩
      | .ok b => c.send M b := by
  have hc : c.ensureConnected M = ⟨.ok (), c, []⟩ := if_pos h
  rw [executeResult, hc]
  exact Outcome.after_nil _

theorem manager_send (c : Client μ) (b : BuiltQuery) :
    (c.send M b).next.manager = (M.query b.sql b.params c.manager).next := by
  rw [send]
  split <;> rfl

end Client

namespace Body

variable {μ α : Type} {M : Manager μ}

/-- What holds of a connected manager and is kept by each statement that is sent, holds behind a
body and all statements it sent. -/
theorem run_induction {R : List BuiltQuery → μ → Prop}
    (connected : ∀ bs m, R bs m → M.isConnected m)
    (step : ∀ bs b m, R bs m → R (bs ++ [b]) (M.query b.sql b.params m).next)
    (body : Body α) (bs : List BuiltQuery) {c : Client μ} (h : R bs c.manager) :
    R (bs ++ body.sent M c) (body.run M c).next.manager := by
  induction body generalizing bs c with
  | done r => simpa [sent, run] using h
  | call k next ih => exact ih _ bs (c := (c.call k).next) h
  | look next ih => exact ih _ bs h
  | execute next ih =>
    have he := c.executeResult_of_isConnected (connected bs c.manager h)
    rw [sent, run, ← List.append_assoc]
    refine ih _ _ (c := (c.executeResult M).next) ?_
    cases hb : c.build M with
    | error e =>
      rw [he, hb]
      simpa [Except.toOption] using h
    | ok b =>
      rw [he, hb]
      simpa [Except.toOption, Client.manager_send] using step bs b c.manager h

variable {κ σ : Type} {N : Manager (κ × σ)}

/-- Where statements change nothing of a connected manager itself, a body does not either. -/
theorem fst_run {m : κ} (hm : ∀ w, N.isConnected (m, w))
    (hq : ∀ sql params w, (N.query sql params (m, w)).next.1 = m)
    (body : Body α) {c : Client (κ × σ)} (hc : c.manager.1 = m) :
    (body.run N c).next.manager.1 = m := by
  refine Body.run_induction (M := N) (R := fun _ s => s.1 = m) ?_ ?_ body [] hc
  · rintro _ ⟨_, w⟩ rfl
    exact hm w
  · rintro _ b ⟨_, w⟩ rfl
    exact hq b.sql b.params w

end Body

/-! ### Begin and end -/

namespace Bracket

variable {ρ α : Type} (b : Bracket ρ) (body : ρ → Outcome ρ α)

theorem transaction_of_error {s : ρ} {e : Error} (h : (b.begin s).result = .error e) :
    b.transaction body s = ⟨.error e, (b.begin s).next, (b.begin s).events⟩ := by
  rw [transaction, Outcome.andThen, h]

theorem transaction_of_ok {s : ρ} (h : (b.begin s).result = .ok ()) :
    let o := b.begin s
    let ran := body o.next
    b.transaction body s = (b.finish ran.result ran.next).after (o.events ++ ran.events) := by
  intro o ran
  rw [transaction, Outcome.andThen, h]
  exact congrArg _ (List.append_assoc ..).symm

/-- A commit ends a transaction whose body succeeded, a rollback any other. -/
theorem next_finish (r : Except Error α) (s : ρ) :
    (b.finish r s).next = match r with
      | .ok _ => (b.commit s).next
      | .error _ => (b.rollback s).next := by
  cases r with
  | ok a =>
    simp only [finish, Outcome.andThen]
    cases (b.commit s).result <;> rfl
  | error e =>
    simp only [finish]
    cases (b.rollback s).result <;> rfl

end Bracket

end FluentSql
