import FluentSql.Proofs.Client.Transaction
import FluentSql.Proofs.Connection.Flag

/-! A manager with a pool of its own beside an embedded one. As long as their databases give the
same answers, the two tell their clients the same, up to the first commit or rollback that fails.
There they part: the one gives up its transaction, the other stays in it, and can try again. What
the embedded manager says of its transaction is so of its engine, too, `abreast_alike`. -/

namespace FluentSql

variable {σ τ P H κ α : Type}

/-! ### Answers -/

/-- The same error without its words: its kind and the operation that met it. -/
@[simp] def Error.wordless : Error → Error
  | .validation _ => .validation ""
  | .state _ => .state ""
  | .connection _ => .connection ""
  | .database _ o _ => .database "" o ""
  | .unsupported _ => .unsupported ""
  | .execution e => .execution e.wordless
  | .config _ => .config ""
  | .other _ => .other ""

/-- The error tells of a commit or a rollback that failed. -/
@[simp] def Error.isUnended : Error → Bool
  | .database _ .commit _ | .database _ .rollback _ => true
  | _ => false

theorem Error.isUnended_wordless (e : Error) : e.wordless.isUnended = e.isUnended := by
  cases e with
  | database b o m => cases o <;> rfl
  | _ => rfl

/-- The operation that a request asks a database for. -/
@[simp] def Request.operation : Request → Operation
  | .connect => .connect
  | .disconnect => .disconnect
  | .query _ _ => .query
  | .begin => .beginTransaction
  | .commit => .commit
  | .rollback => .rollback

/-- Whether each operation succeeds on a database. -/
abbrev Answers := Operation → Bool

/-- A call came to what the answers say. A handle that cannot be had counts as a failure of what it
was to be taken for. -/
@[simp] def DriverEvent.Agrees (a : Answers) (r : Request) : DriverEvent → Prop
  | .opened _ => a .connect = true
  | .openFailed _ => a .connect = false
  | .acquireFailed _ _ => a r.operation = false
  | .on _ (.execute _ _ f) => a .query = f.isNone
  | .on _ (.begin f) => a .beginTransaction = f.isNone
  | .on _ (.commit f) => a .commit = f.isNone
  | .on _ (.rollback f) => a .rollback = f.isNone
  | .on _ (.acquire _) | .on _ .release => True
  | .closed _ f => a .disconnect = f.isNone

namespace Answers

variable (a : Answers)

/-- The failure of an operation, if it fails; of its words nothing is known. -/
@[simp] def failure (o : Operation) : Option DriverError :=
  if a o then none else some ⟨""⟩

@[simp] def failures : Failures where
  openPool := a.failure .connect
  execute := a.failure .query
  begin := a.failure .beginTransaction
  commit := a.failure .commit
  rollback := a.failure .rollback
  close := a.failure .disconnect

end Answers

/-! ### Moves that are given the same answers -/

namespace Phase

variable {a : Answers} {r : Request} {name : String} {fails : Failures} {pool handle : Nat}

/-- The answers decide the kind of a move's error, and the phase after it. -/
theorem move_of_agrees (p : Phase)
    (h : ∀ e ∈ (p.move name fails r).calls.map (·.event pool handle fails), e.Agrees a r) :
    (p.move name fails r).error.map Error.wordless =
        (p.move "" a.failures r).error.map Error.wordless ∧
      (p.move name fails r).next = (p.move "" a.failures r).next := by
  rcases p with _ | owned | owned <;> cases r <;> try exact ⟨rfl, rfl⟩
  case disconnected.connect => cases hf : fails.openPool <;> simp_all [move, DriverError.during]
  case idle.disconnect =>
    cases owned <;> cases hf : fails.close <;> simp_all [move, letGo, DriverError.during]
  case idle.query =>
    cases hf : fails.acquire <;> cases hg : fails.execute <;> simp_all [move, DriverError.during]
  case idle.begin =>
    cases hf : fails.acquire <;> cases hg : fails.begin <;> simp_all [move, DriverError.during]
  case inTransaction.disconnect =>
    cases owned <;> cases hf : fails.close <;> simp_all [move, letGo, DriverError.during]
  case inTransaction.query => cases hf : fails.execute <;> simp_all [move, DriverError.during]
  case inTransaction.commit => cases hf : fails.commit <;> simp_all [move, DriverError.during]
  case inTransaction.rollback => cases hf : fails.rollback <;> simp_all [move, DriverError.during]

/-- Only in a transaction can a commit or a rollback fail. -/
theorem unended_move (p : Phase) (hc : ∀ owned, p = inTransaction owned → r ≠ .commit)
    (hr : ∀ owned, p = inTransaction owned → r ≠ .rollback) :
    (p.move "" a.failures r).error.any Error.isUnended = false := by
  rcases p with _ | owned | owned <;> cases r <;> try rfl
  case disconnected.connect => cases ha : a .connect <;> simp [move, ha, DriverError.during]
  case idle.disconnect =>
    cases owned <;> cases ha : a .disconnect <;> simp [move, letGo, ha, DriverError.during]
  case idle.query => cases ha : a .query <;> simp [move, ha, DriverError.during]
  case idle.begin => cases ha : a .beginTransaction <;> simp [move, ha, DriverError.during]
  case inTransaction.disconnect =>
    cases owned <;> cases ha : a .disconnect <;> simp [move, letGo, ha, DriverError.during]
  case inTransaction.query => cases ha : a .query <;> simp [move, ha, DriverError.during]
  case inTransaction.commit => exact absurd rfl (hc owned rfl)
  case inTransaction.rollback => exact absurd rfl (hr owned rfl)

/-- A commit or a rollback that fails gives the transaction up. -/
theorem next_of_unended (p : Phase) (h : (p.move "" a.failures r).error.any Error.isUnended) :
    ∃ owned, p = inTransaction owned ∧ (p.move "" a.failures r).next = idle owned := by
  by_cases hr : ∃ owned, p = inTransaction owned ∧ (r = .commit ∨ r = .rollback)
  · obtain ⟨owned, rfl, rfl | rfl⟩ := hr
    · cases ha : a .commit <;> exact ⟨owned, rfl, by simp [move, ha]⟩
    · exact ⟨owned, rfl, rfl⟩
  · rw [unended_move p (fun owned hp hc => hr ⟨owned, hp, .inl hc⟩)
      (fun owned hp hc => hr ⟨owned, hp, .inr hc⟩)] at h
    exact absurd h Bool.false_ne_true

/-- Taking handles and giving them back agrees with all answers. -/
theorem agrees_of_filter {calls : List DriverStep}
    (h : ∀ e ∈ (calls.filter (!·.isLoan)).map (·.event pool handle fails), e.Agrees a r) :
    ∀ e ∈ calls.map (·.event pool handle { fails with acquire := none }), e.Agrees a r := by
  intro e he
  obtain ⟨x, hx, rfl⟩ := List.mem_map.1 he
  have kept (hl : x.isLoan = false) : (x.event pool handle fails).Agrees a r :=
    h _ (List.mem_map_of_mem (List.mem_filter.2 ⟨hx, by simp [hl]⟩))
  cases x with
  | acquire => trivial
  | release => trivial
  | _ => exact kept rfl

/-- The same for a manager with one connection: it differs in that it does not end what it could not
commit or roll back. -/
theorem single_of_agrees (p : Phase)
    (h : ∀ e ∈ (p.single name fails r).calls.map (·.event pool handle fails), e.Agrees a r) :
    let m := p.move "" a.failures r
    (p.single name fails r).error.map Error.wordless = m.error.map Error.wordless ∧
      (p.single name fails r).next = if m.error.any Error.isUnended then p else m.next := by
  intro m
  unfold single at h ⊢
  split at h
  · cases hf : fails.commit <;> simp_all [m, move, DriverError.during]
  · cases hf : fails.rollback <;> simp_all [m, move, DriverError.during]
  next hc hr =>
    rw [unended_move p hc hr]
    exact p.move_of_agrees (agrees_of_filter h)

end Phase

/-! ### Requests with answers -/

/-- What a request gives that succeeds, where a statement is given this output. -/
def Request.success (raw : RawOutput) : Request → Option QueryResult
  | .query sql params => some (.ofRaw sql params raw)
  | _ => none

theorem Outcome.result_of_error?_eq_none {o : Outcome σ Unit} {b : Option QueryResult}
    (h : (o.map fun _ => b).error? = none) : (o.map fun _ => b).result = .ok b := by
  obtain ⟨e | u, s, es⟩ := o
  · cases h
  · rfl

/-- Outcomes with errors of the same kind, and with the same results where there is none. -/
theorem Outcome.mapError_result {o : Outcome σ α} {p : Outcome τ α} {x : α}
    (h : o.error?.map Error.wordless = p.error?.map Error.wordless)
    (ho : o.error? = none → o.result = .ok x) (hp : p.error? = none → p.result = .ok x) :
    o.result.mapError Error.wordless = p.result.mapError Error.wordless := by
  obtain ⟨f | y, s, es⟩ := o <;> obtain ⟨g | z, t, fs⟩ := p
  · exact congrArg Except.error (Option.some.inj h)
  · cases h
  · cases h
  · exact congrArg (Except.mapError Error.wordless) ((ho rfl).trans (hp rfl).symm)

namespace Pooled

variable (d : PoolDriver σ P H)

theorem connected_phase (m : Pooled P H) : m.phase.connected = m.isConnected := by
  rw [phase]
  cases m.isConnected <;> cases m.inTransaction <;> rfl

theorem transacting_phase {m : Pooled P H} (h : m.Sound) :
    m.phase.transacting = m.inTransaction := by
  rw [phase]
  cases hc : m.isConnected <;> cases ht : m.inTransaction
  · rfl
  · exact absurd (h ht) (by simp [hc])
  · rfl
  · rfl

/-- The output that the driver has for a request, if it has one. -/
def output? (s : World σ P H) : Request → Option RawOutput
  | .query sql params => s.1.pool.bind fun p => (run d s.1 p sql params s.2).1.toOption
  | _ => none

theorem result_perform {r : Request} {s : World σ P H} {raw : RawOutput}
    (hr : ∀ x ∈ output? d s r, x = raw) (h : ((manager d).perform r s).error? = none) :
    ((manager d).perform r s).result = .ok (r.success raw) := by
  cases r with
  | query sql params =>
    obtain ⟨⟨_ | p, owns, x⟩, w⟩ := s
    · cases h
    · simp only [output?, Option.bind_some] at hr
      simp only [Manager.perform, manager, query] at h ⊢
      rcases hx : run d ⟨some p, owns, x⟩ p sql params w with ⟨e | out, v⟩
      · rw [hx] at h
        cases h
      · have hout : out = raw := hr out (by rw [hx]; rfl)
        rw [← hout]
        rfl
  | _ => exact Outcome.result_of_error?_eq_none h

/-- The driver's calls for a request come to these answers, and a statement to this output. -/
structure Answered (a : Answers) (raw : RawOutput) (r : Request) (s : RecordedWorld σ P H) :
    Prop where
  calls : ∀ e ∈ ((manager d.recorded).perform r s).next.2.log.drop s.2.log.length, e.Agrees a r
  output : ∀ x ∈ output? d.recorded s r, x = raw

/-- A request that is answered is the move for these answers. -/
theorem Answered.move {d : PoolDriver σ P H} {a : Answers} {raw : RawOutput} {r : Request}
    {s : RecordedWorld σ P H} (h : Answered d a raw r s) (hs : s.1.Sound) :
    let o := (manager d.recorded).perform r s
    let m := s.1.phase.move "" a.failures r
    o.error?.map Error.wordless = m.error.map Error.wordless ∧ o.next.1.phase = m.next := by
  obtain ⟨fails, hf⟩ := perform_follows d r s hs
  have hc := h.calls
  rw [hf.log, List.drop_left] at hc
  simp only [hf.error, hf.phase]
  exact s.1.phase.move_of_agrees hc

end Pooled

namespace Embedded

variable (e : Engine τ)

theorem connected_phase (m : Embedded) : m.phase.connected = m.isConnected := by
  obtain ⟨path, _ | _, _ | _⟩ := m <;> rfl

theorem transacting_phase {m : Embedded} (h : m.Sound) :
    m.phase.transacting = m.inTransaction := by
  obtain ⟨path, _ | _, _ | _⟩ := m
  · rfl
  · exact absurd (h rfl) Bool.false_ne_true
  · rfl
  · rfl

/-- What an embedded manager has is its own. -/
theorem owned_of_phase {m : Embedded} {owned : Bool} (h : m.phase = .inTransaction owned) :
    owned = true := by
  obtain ⟨path, _ | _, _ | _⟩ := m <;> cases h
  rfl

/-- The output that the engine has for a request, if it has one. -/
def output? (s : World τ) : Request → Option RawOutput
  | .query sql params => if s.1.isConnected then (e.execute sql params s.2).1.toOption else none
  | _ => none

theorem result_perform {r : Request} {s : World τ} {raw : RawOutput}
    (hr : ∀ x ∈ output? e s r, x = raw) (h : ((manager e).perform r s).error? = none) :
    ((manager e).perform r s).result = .ok (r.success raw) := by
  cases r with
  | query sql params =>
    obtain ⟨⟨path, _ | _, i⟩, w⟩ := s
    · cases h
    · simp only [output?, if_true] at hr
      simp only [Manager.perform, manager, query] at h ⊢
      rcases hx : e.execute sql params w with ⟨f | out, v⟩
      · rw [hx] at h
        cases h
      · have hout : out = raw := hr out (by rw [hx]; rfl)
        rw [← hout]
        rfl
  | _ => exact Outcome.result_of_error?_eq_none h

/-- The engine's calls for a request come to these answers, and a statement to this output. -/
structure Answered (a : Answers) (raw : RawOutput) (r : Request) (s : World (Recorded τ)) :
    Prop where
  calls : ∀ x ∈ ((manager e.recorded).perform r s).next.2.log.drop s.2.log.length, x.Agrees a r
  output : ∀ x ∈ output? e.recorded s r, x = raw

theorem Answered.move {e : Engine τ} {a : Answers} {raw : RawOutput} {r : Request}
    {s : World (Recorded τ)} (h : Answered e a raw r s) (hs : s.1.Sound) :
    let o := (manager e.recorded).perform r s
    let m := s.1.phase.move "" a.failures r
    o.error?.map Error.wordless = m.error.map Error.wordless ∧
      o.next.1.phase = if m.error.any Error.isUnended then s.1.phase else m.next := by
  obtain ⟨fails, hf⟩ := perform_follows e r s hs
  have hc := h.calls
  rw [hf.log, List.drop_left] at hc
  simp only [hf.error, hf.phase]
  exact s.1.phase.single_of_agrees hc

end Embedded

/-! ### Managers abreast -/

section Abreast

variable (d : PoolDriver σ P H) (e : Engine τ)

/-- A pooled and an embedded manager have been asked the same and given the same answers from the
start, and no commit or rollback has failed on the way. -/
inductive Abreast (path : String) (w : σ) (v : τ) :
    Pooled.RecordedWorld σ P H → Embedded.World (Recorded τ) → Prop where
  | start : Abreast path w v (Pooled.recorded none w) (Embedded.recorded path v)
  | step {s : Pooled.RecordedWorld σ P H} {t : Embedded.World (Recorded τ)} (a : Answers)
      (raw : RawOutput) (r : Request) (before : Abreast path w v s t)
      (pooled : Pooled.Answered d a raw r s) (embedded : Embedded.Answered e a raw r t)
      (ended : ((Pooled.manager d.recorded).perform r s).error?.any Error.isUnended = false) :
      Abreast path w v ((Pooled.manager d.recorded).perform r s).next
        ((Embedded.manager e.recorded).perform r t).next

theorem any_isUnended_of_wordless {x y : Option Error}
    (h : x.map Error.wordless = y.map Error.wordless) :
    x.any Error.isUnended = y.any Error.isUnended := by
  have any_wordless (z : Option Error) :
      (z.map Error.wordless).any Error.isUnended = z.any Error.isUnended := by
    cases z with
    | none => rfl
    | some f => exact f.isUnended_wordless
  rw [← any_wordless x, ← any_wordless y, h]

/-- What one step keeps: the same phase, and a connection for each transaction. -/
theorem Abreast.sound {path : String} {w : σ} {v : τ} {s : Pooled.RecordedWorld σ P H}
    {t : Embedded.World (Recorded τ)} (h : Abreast d e path w v s t) :
    s.1.Sound ∧ t.1.Sound ∧ s.1.phase = t.1.phase := by
  induction h with
  | start => exact ⟨fun h => absurd h Bool.false_ne_true, fun h => absurd h Bool.false_ne_true, rfl⟩
  | step a raw r before pooled embedded ended ih =>
    obtain ⟨hs, ht, hp⟩ := ih
    obtain ⟨fails, hf⟩ := Pooled.perform_follows d r _ hs
    obtain ⟨fails', hf'⟩ := Embedded.perform_follows e r _ ht
    obtain ⟨herror, hnext⟩ := pooled.move hs
    obtain ⟨-, hnext'⟩ := embedded.move ht
    rw [any_isUnended_of_wordless herror, hp] at ended
    refine ⟨hf.sound, hf'.sound, ?_⟩
    rw [hnext, hnext', hp, ended]
    rfl

/-- The one step that both make next. -/
theorem Abreast.alike {path : String} {w : σ} {v : τ} {s : Pooled.RecordedWorld σ P H}
    {t : Embedded.World (Recorded τ)} (h : Abreast d e path w v s t) {a : Answers} {raw : RawOutput}
    {r : Request} (hs : Pooled.Answered d a raw r s) (ht : Embedded.Answered e a raw r t) :
    let o := (Pooled.manager d.recorded).perform r s
    let p := (Embedded.manager e.recorded).perform r t
    o.result.mapError Error.wordless = p.result.mapError Error.wordless ∧
      (o.error?.any Error.isUnended →
        o.next.1.phase = .idle true ∧ p.next.1.phase = .inTransaction true) := by
  intro o p
  obtain ⟨sound, sound', hp⟩ := h.sound
  obtain ⟨herror, hnext⟩ := hs.move sound
  obtain ⟨herror', hnext'⟩ := ht.move sound'
  rw [hp] at herror hnext
  have same : o.error?.map Error.wordless = p.error?.map Error.wordless := herror.trans herror'.symm
  refine ⟨Outcome.mapError_result same (Pooled.result_perform d.recorded hs.output)
    (Embedded.result_perform e.recorded ht.output), ?_⟩
  intro hu
  rw [any_isUnended_of_wordless herror] at hu
  obtain ⟨owned, hphase, hidle⟩ := t.1.phase.next_of_unended hu
  have howned : owned = true := t.1.owned_of_phase hphase
  refine ⟨hnext.trans (howned ▸ hidle), ?_⟩
  rw [hnext', if_pos hu, hphase, howned]

end Abreast

/-! ### One contract -/

/-- A pooled manager that opens its own pool and an embedded one are asked the same and given the
same answers from the start; what the records of their calls say changes nothing of what they do.
As long as no commit or rollback has failed, they report the same, and the next request has the same
result, or an error of the same kind. If it is the first commit or rollback to fail, the pooled
manager has no transaction any more, while the embedded one keeps its own, which can be ended at any
time. On an engine whose transaction statements switch its transaction or fail, and under statements
that leave it alone, the embedded manager tells in every state whether the engine has one open. -/
theorem abreast_alike (d : PoolDriver σ P H) (e : Engine τ) (path : String) (w : σ) (v : τ) :
    (Pooled.manager d.recorded).Maps Pooled.forget (Pooled.manager d) ∧
      (Embedded.manager e.recorded).Maps Embedded.forget (Embedded.manager e) ∧
      (∀ s t, Abreast d e path w v s t →
        s.1.isConnected = t.1.isConnected ∧ s.1.inTransaction = t.1.inTransaction ∧
          ∀ a raw r, Pooled.Answered d a raw r s → Embedded.Answered e a raw r t →
            let o := (Pooled.manager d.recorded).perform r s
            let p := (Embedded.manager e.recorded).perform r t
            o.result.mapError Error.wordless = p.result.mapError Error.wordless ∧
              (o.error?.any Error.isUnended →
                o.next.1.isConnected ∧ o.next.1.inTransaction = false ∧
                  p.next.1.isConnected ∧ p.next.1.inTransaction)) ∧
      (∀ (m : Embedded) (u : τ), m.isConnected → m.inTransaction → Embedded.Endable e m u) ∧
      ∀ isOpen : τ → Bool, e.Switches isOpen → ∀ rs : List Request,
        (∀ r ∈ rs, r.Quiet e isOpen) →
          let t := (Embedded.manager e).run rs ({ path }, v)
          t.1.inTransaction = true ↔ t.1.isConnected = true ∧ isOpen t.2 = true := by
  refine ⟨Pooled.maps_forget d, Embedded.maps_forget e, ?_, ?_, ?_⟩
  · intro s t h
    obtain ⟨hs, ht, hp⟩ := h.sound
    refine ⟨?_, ?_, ?_⟩
    · rw [← Pooled.connected_phase, hp, Embedded.connected_phase]
    · rw [← Pooled.transacting_phase hs, hp, Embedded.transacting_phase ht]
    · intro a raw r ha hb
      obtain ⟨hresult, hunended⟩ := h.alike d e ha hb
      obtain ⟨fails, hf⟩ := Pooled.perform_follows d r s hs
      obtain ⟨fails', hf'⟩ := Embedded.perform_follows e r t ht
      refine ⟨hresult, ?_⟩
      intro hu
      obtain ⟨ho, hq⟩ := hunended hu
      refine ⟨?_, ?_, ?_, ?_⟩
      · rw [← Pooled.connected_phase, ho, Phase.connected]
      · rw [← Pooled.transacting_phase hf.sound, ho, Phase.transacting]
      · rw [← Embedded.connected_phase, hq, Phase.connected]
      · rw [← Embedded.transacting_phase hf'.sound, hq, Phase.transacting]
  · intro m u hc ht
    exact Embedded.endable e hc ht u
  · intro isOpen he rs hr
    have ht : Embedded.Truthful isOpen ((Embedded.manager e).run rs ({ path }, v)) :=
      Embedded.run_truthful he hr rfl
    rw [Embedded.Truthful] at ht
    simp only [ht, Bool.and_eq_true]

/-- A driver on which nothing fails but commits. -/
def PoolDriver.uncommitting : PoolDriver Unit Unit Unit where
  name := "postgres"
  placeholder := .dollar
  openPool _ := (.ok (), ())
  acquire _ _ := (.ok (), ())
  execute _ _ _ _ := (.ok (.write 0), ())
  begin _ _ := (.ok (), ())
  commit _ _ := (.error ⟨"could not commit"⟩, ())
  rollback _ _ := (.ok (), ())
  release _ _ := ()
  close _ _ := (.ok (), ())

/-- An engine on which nothing fails but commits; its world tells whether a transaction is open. -/
def Engine.uncommitting : Engine Bool where
  name := "sqlite"
  openPath _ _ := (.ok (), false)
  execute _ _ opened := (.ok (.write 0), opened)
  begin _ := (.ok (), true)
  commit opened := (.error ⟨"database is locked"⟩, opened)
  rollback _ := (.ok (), false)
  close _ := (.ok (), false)

/-- Both have begun a transaction that they cannot commit; and an engine in memory has one open that
its manager knows of. -/
theorem abreast_alike_uncommitting :
    let M := Pooled.manager PoolDriver.uncommitting.recorded
    let N := Embedded.manager Engine.uncommitting.recorded
    let s := M.run [.connect, .begin] (Pooled.recorded none ())
    let t := N.run [.connect, .begin] (Embedded.recorded "main.db" false)
    Abreast PoolDriver.uncommitting Engine.uncommitting "main.db" () false s t ∧
      (M.perform .commit s).error? = some (.database "postgres" .commit "could not commit") ∧
      (N.perform .commit t).error? = some (.database "sqlite" .commit "database is locked") ∧
      (M.perform .commit s).next.1.inTransaction = false ∧
      (N.perform .commit t).next.1.inTransaction = true ∧
      Embedded.Endable Engine.uncommitting (N.perform .commit t).next.1 true ∧
      let u := (Embedded.manager Sqlite.engine).run [.connect, .begin] ({ path := ":memory:" }, {})
      u.1.inTransaction = true ∧
        (u.1.inTransaction = true ↔ u.1.isConnected = true ∧ u.2.saved.isSome = true) := by
  intro M N s t
  let a : Answers := (· != .commit)
  have connected : Abreast PoolDriver.uncommitting Engine.uncommitting "main.db" () false
      (M.run [.connect] (Pooled.recorded none ()))
      (N.run [.connect] (Embedded.recorded "main.db" false)) :=
    .step a (.write 0) .connect .start ⟨List.forall_mem_singleton.2 rfl, by rintro x ⟨⟩⟩
      ⟨List.forall_mem_singleton.2 rfl, by rintro x ⟨⟩⟩ rfl
  have begun : Abreast PoolDriver.uncommitting Engine.uncommitting "main.db" () false s t :=
    .step a (.write 0) .begin connected
      ⟨List.forall_mem_cons.2 ⟨trivial, List.forall_mem_singleton.2 rfl⟩, by rintro x ⟨⟩⟩
      ⟨List.forall_mem_singleton.2 rfl, by rintro x ⟨⟩⟩ rfl
  obtain ⟨-, -, same, ends, -⟩ :=
    abreast_alike PoolDriver.uncommitting Engine.uncommitting "main.db" () false
  obtain ⟨-, -, -, -, truthful⟩ :=
    abreast_alike PoolDriver.uncommitting Sqlite.engine ":memory:" () {}
  obtain ⟨-, -, next⟩ := same s t begun
  have committing : Pooled.Answered PoolDriver.uncommitting a (.write 0) .commit s := by
    refine ⟨List.forall_mem_cons.2 ⟨rfl, List.forall_mem_cons.2 ⟨rfl, ?_⟩⟩, by rintro x ⟨⟩⟩
    exact List.forall_mem_singleton.2 trivial
  obtain ⟨-, parted⟩ := next a (.write 0) .commit committing
    ⟨List.forall_mem_singleton.2 rfl, by rintro x ⟨⟩⟩
  obtain ⟨-, pooled, hc, ht⟩ := parted rfl
  refine ⟨begun, rfl, rfl, pooled, ht, ends _ true hc ht, rfl, ?_⟩
  exact truthful (·.saved.isSome) Sqlite.switches_engine [.connect, .begin] (by simp [Request.Quiet])

end FluentSql
