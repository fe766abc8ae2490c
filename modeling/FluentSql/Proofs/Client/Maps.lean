import FluentSql.Proofs.Client.Body

/-! Maps between managers. A map of states under which every operation of one manager becomes that
of another carries along what clients do with them: the same executions, bodies and transactions, to
the same results and events. -/

namespace FluentSql

variable {μ ν ρ τ α β : Type}

namespace Outcome

theorem lift_after (f : μ → ν) (es : List Event) (o : Outcome μ α) :
    (o.after es).lift f = (o.lift f).after es :=
  rfl

theorem lift_andThen {f : μ → ν} {o : Outcome μ α} {p : Outcome ν α}
    {g : α → μ → Outcome μ β} {h : α → ν → Outcome ν β} (ho : o.lift f = p)
    (hg : ∀ a s, (g a s).lift f = h a (f s)) : (o.andThen g).lift f = p.andThen h := by
  subst ho
  obtain ⟨e | a, s, es⟩ := o
  · rfl
  · exact congrArg (Outcome.after es) (hg a s)

end Outcome

/-- Under `f` every operation of `M` becomes that of `N`. -/
structure Manager.Maps (f : μ → ν) (M : Manager μ) (N : Manager ν) : Prop where
  placeholder : ∀ m, M.placeholder m = N.placeholder (f m)
  isConnected : ∀ m, M.isConnected m = N.isConnected (f m)
  inTransaction : ∀ m, M.inTransaction m = N.inTransaction (f m)
  connect : ∀ m, (M.connect m).lift f = N.connect (f m)
  disconnect : ∀ m, (M.disconnect m).lift f = N.disconnect (f m)
  query : ∀ sql params m, (M.query sql params m).lift f = N.query sql params (f m)
  begin : ∀ m, (M.begin m).lift f = N.begin (f m)
  commit : ∀ m, (M.commit m).lift f = N.commit (f m)
  rollback : ∀ m, (M.rollback m).lift f = N.rollback (f m)

/-- Under `g` a transaction begins and ends as that of the other bracket. -/
structure Bracket.Maps (g : ρ → τ) (a : Bracket ρ) (b : Bracket τ) : Prop where
  begin : ∀ s, (a.begin s).lift g = b.begin (g s)
  commit : ∀ s, (a.commit s).lift g = b.commit (g s)
  rollback : ∀ s, (a.rollback s).lift g = b.rollback (g s)

namespace Bracket.Maps

variable {g : ρ → τ} {a : Bracket ρ} {b : Bracket τ}

theorem finish (h : Maps g a b) (r : Except Error α) (s : ρ) :
    (a.finish r s).lift g = b.finish r (g s) := by
  cases r with
  | ok x =>
    exact Outcome.lift_andThen (g := fun _ s => ⟨.ok x, s, []⟩) (h := fun _ s => ⟨.ok x, s, []⟩)
      (h.commit s) fun _ _ => rfl
  | error e =>
    rw [Bracket.finish, Bracket.finish, ← h.rollback]
    obtain ⟨r | u, s, es⟩ := a.rollback s <;> rfl

theorem transaction (h : Maps g a b) {body : ρ → Outcome ρ α} {body' : τ → Outcome τ α}
    (hb : ∀ s, (body s).lift g = body' (g s)) (s : ρ) :
    (a.transaction body s).lift g = b.transaction body' (g s) := by
  refine Outcome.lift_andThen (h.begin s) ?_
  intro _ t
  rw [Outcome.lift_after, h.finish, ← hb]
  rfl

end Bracket.Maps

namespace Client

/-- The same client on another manager. -/
def onto (f : μ → ν) (c : Client μ) : Client ν :=
  ⟨f c.manager, c.state, c.options⟩

variable {f : μ → ν} {M : Manager μ} {N : Manager ν}

theorem onManager_onto {op : μ → Outcome μ α} {op' : ν → Outcome ν α}
    (h : ∀ m, (op m).lift f = op' (f m)) (c : Client μ) :
    (c.onManager op).lift (onto f) = (c.onto f).onManager op' := by
  have hc : (c.onto f).onManager op' = ((op c.manager).lift f).lift
      fun n => { c.onto f with manager := n } := congrArg _ (h c.manager).symm
  rw [hc]
  rfl

theorem ensureConnected_onto (h : M.Maps f N) (c : Client μ) :
    (c.ensureConnected M).lift (onto f) = (c.onto f).ensureConnected N := by
  have hc : c.isConnected M = (c.onto f).isConnected N := h.isConnected c.manager
  rw [ensureConnected, ensureConnected, ← hc]
  split
  · rfl
  · exact onManager_onto h.connect c

theorem send_onto (h : M.Maps f N) (b : BuiltQuery) (c : Client μ) :
    (c.send M b).lift (onto f) = (c.onto f).send N b := by
  have hq : (c.query M b.sql b.params).lift (onto f) = (c.onto f).query N b.sql b.params :=
    onManager_onto (h.query b.sql b.params) c
  have hl : (c.onto f).options.logging = c.options.logging := rfl
  rw [send, send, ← hq, hl]
  cases c.options.logging <;> rfl

theorem build_onto (h : M.Maps f N) (c : Client μ) : (c.onto f).build N = c.build M :=
  congrArg c.state.build (h.placeholder c.manager).symm

theorem executeResult_onto (h : M.Maps f N) (c : Client μ) :
    (c.executeResult M).lift (onto f) = (c.onto f).executeResult N := by
  refine Outcome.lift_andThen (ensureConnected_onto h c) ?_
  intro _ c
  rw [build_onto h]
  cases c.build M with
  | error e => rfl
  | ok b => exact send_onto h b c

theorem bracket_onto (h : M.Maps f N) : (bracket M).Maps (onto f) (bracket N) :=
  ⟨onManager_onto h.begin, onManager_onto h.commit, onManager_onto h.rollback⟩

end Client

namespace Body

variable {f : μ → ν} {M : Manager μ} {N : Manager ν}

theorem run_onto (h : M.Maps f N) (body : Body α) (c : Client μ) :
    (body.run M c).lift (Client.onto f) = body.run N (c.onto f) := by
  induction body generalizing c with
  | done r => rfl
  | call k next ih =>
    exact congrArg (Outcome.after _) (ih _ (c.call k).next)
  | look next ih => exact ih _ c
  | execute next ih =>
    rw [run, run, ← Client.executeResult_onto h, Outcome.lift_after, ih]
    rfl

/-- The whole transaction is the same. -/
theorem transaction_onto (h : M.Maps f N) (body : Body α) (c : Client μ) :
    ((Client.bracket M).transaction (body.run M) c).lift (Client.onto f) =
      (Client.bracket N).transaction (body.run N) (c.onto f) :=
  (Client.bracket_onto h).transaction (body.run_onto h) c

end Body

end FluentSql
