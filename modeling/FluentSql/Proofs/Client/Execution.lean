import FluentSql.Proofs.Connection.Lawful

/-! The course of one execution: a client connects if need be, compiles its query and sends it, and
each of the three can end it. What it asks of its manager is read from a list of requests that the
manager keeps. From the course and the laws of managers follow the properties that clients rely on,
in every state that a manager can be in, `executes`. -/

namespace FluentSql

variable {σ τ P H μ : Type}

/-! ### What is asked of a manager -/

/-- The same manager, with a list of the requests that were made of it. -/
def Manager.logged (M : Manager μ) : Manager (μ × List Request) where
  placeholder m := M.placeholder m.1
  isConnected m := M.isConnected m.1
  inTransaction m := M.inTransaction m.1
  connect m := (M.connect m.1).lift fun n => (n, m.2 ++ [.connect])
  disconnect m := (M.disconnect m.1).lift fun n => (n, m.2 ++ [.disconnect])
  query sql params m :=
    (M.query sql params m.1).lift fun n => (n, m.2 ++ [.query sql params])
  begin m := (M.begin m.1).lift fun n => (n, m.2 ++ [.begin])
  commit m := (M.commit m.1).lift fun n => (n, m.2 ++ [.commit])
  rollback m := (M.rollback m.1).lift fun n => (n, m.2 ++ [.rollback])

/-- The list is all that is new. -/
theorem Manager.maps_logged (M : Manager μ) : M.logged.Maps Prod.fst M where
  placeholder _ := rfl
  isConnected _ := rfl
  inTransaction _ := rfl
  connect _ := rfl
  disconnect _ := rfl
  query _ _ _ := rfl
  begin _ := rfl
  commit _ := rfl
  rollback _ := rfl

namespace Client

variable (M : Manager μ) (c : Client μ)

/-- The same client, whose manager keeps a list of its requests from now on. -/
def logged : Client (μ × List Request) :=
  ⟨(c.manager, []), c.state, c.options⟩

/-- What an execution asks of the manager, in order. -/
def requests : List Request :=
  (c.logged.executeResult M.logged).next.manager.2

/-- What is reported before a query is sent. -/
def announcement (b : BuiltQuery) : List Event :=
  if c.options.logging then [.executing b.sql b.params] else []

/-! ### Courses -/

/-- How a client comes by a connection: it has one, or the manager connects. -/
inductive Connects : List Request → List Event → μ → Prop where
  | already : M.isConnected c.manager → Connects [] [] c.manager
  | now : M.isConnected c.manager = false → (M.connect c.manager).result = .ok () →
      Connects [.connect] (M.connect c.manager).events (M.connect c.manager).next

/-- The courses of an execution, each with what is asked of the manager and the outcome. -/
inductive Course : List Request → Outcome (Client μ) QueryResult → Prop where
  | unconnected (e : Error) : M.isConnected c.manager = false →
      (M.connect c.manager).result = .error e →
      Course [.connect]
        ⟨.error e, { c with manager := (M.connect c.manager).next }, (M.connect c.manager).events⟩
  | uncompiled {rs : List Request} {es : List Event} {m : μ} (e : Error) : Connects M c rs es m →
      c.build M = .error e → Course rs ⟨.error e, { c with manager := m }, es⟩
  | sent {rs : List Request} {es : List Event} {m : μ} (b : BuiltQuery) : Connects M c rs es m →
      c.build M = .ok b →
      Course (rs ++ [.query b.sql b.params])
        ⟨(M.query b.sql b.params m).result.mapError .execution,
          { c with manager := (M.query b.sql b.params m).next },
          es ++ (c.announcement b ++ (M.query b.sql b.params m).events)⟩

variable {M c}

theorem send_eq (c : Client μ) (b : BuiltQuery) :
    c.send M b =
      ⟨(M.query b.sql b.params c.manager).result.mapError .execution,
        { c with manager := (M.query b.sql b.params c.manager).next },
        c.announcement b ++ (M.query b.sql b.params c.manager).events⟩ := by
  rw [send, announcement]
  cases c.options.logging <;> rfl

/-- What an execution does once there is a connection. -/
def dispatch (M : Manager μ) (c : Client μ) : Outcome (Client μ) QueryResult :=
  match c.build M with
  | .error e => ⟨.error e, c, []⟩
  | .ok b => c.send M b

theorem executeResult_eq (c : Client μ) :
    c.executeResult M = (c.ensureConnected M).andThen fun _ c => c.dispatch M := rfl

/-- Behind a connection the query is compiled and sent. -/
theorem dispatch_course {c : Client μ} {rs : List Request} {es : List Event} {m : μ}
    (h : Connects M c rs es m) (hp : M.placeholder m = M.placeholder c.manager) :
    Course M c (dispatch M.logged ⟨(m, rs), c.state, c.options⟩).next.manager.2
      ((dispatch M { c with manager := m }).after es) := by
  have hbuild : build M { c with manager := m } = c.build M := congrArg c.state.build hp
  have hbuild' : build M.logged ⟨(m, rs), c.state, c.options⟩ = c.build M :=
    congrArg c.state.build hp
  rw [dispatch, dispatch, hbuild, hbuild']
  cases hb : c.build M with
  | error e =>
    have hcourse := Course.uncompiled e h hb
    rwa [← List.append_nil es] at hcourse
  | ok b =>
    simp only [send_eq]
    exact .sent b h hb

/-- Every execution takes one of the courses. The client compiles once it is connected; the style
of placeholders is still the one before. -/
theorem executeResult_course (c : Client μ)
    (hp : M.placeholder (M.connect c.manager).next = M.placeholder c.manager) :
    Course M c (c.requests M) (c.executeResult M) := by
  rw [requests, executeResult_eq, executeResult_eq]
  by_cases hc : M.isConnected c.manager
  · have he : c.ensureConnected M = ⟨.ok (), c, []⟩ := if_pos hc
    have hl : c.logged.ensureConnected M.logged = ⟨.ok (), c.logged, []⟩ := if_pos hc
    rw [he, hl]
    exact dispatch_course (.already hc) rfl
  · have he : c.ensureConnected M = c.connect M := if_neg hc
    have hl : c.logged.ensureConnected M.logged = c.logged.connect M.logged := if_neg hc
    rw [he, hl]
    have hf : M.isConnected c.manager = false := Bool.eq_false_iff.2 hc
    have unconnected := Course.unconnected (M := M) (c := c)
    have now := Connects.now (M := M) (c := c) hf
    simp only [connect, onManager, Manager.logged, logged]
    rcases hk : M.connect c.manager with ⟨e | u, m, es⟩
    · rw [hk] at unconnected
      exact unconnected e hf rfl
    · rw [hk] at now hp
      exact dispatch_course (now rfl) hp

/-! ### What every course keeps -/

section Kept

variable {rs : List Request} {es : List Event} {m : μ} {o : Outcome (Client μ) QueryResult}

theorem Connects.isConnected (h : Connects M c rs es m) (law : M.LawfulAt c.manager) :
    M.isConnected m := by
  cases h with
  | already hc => exact hc
  | now hf ho => exact law.isConnected_connect ho

theorem Connects.inTransaction (h : Connects M c rs es m) (law : M.LawfulAt c.manager) :
    M.inTransaction m = M.inTransaction c.manager := by
  cases h with
  | already => rfl
  | now => exact law.inTransaction_connect

theorem Connects.placeholder (h : Connects M c rs es m) (law : M.LawfulAt c.manager) :
    M.placeholder m = M.placeholder c.manager := by
  cases h with
  | already => rfl
  | now => exact law.placeholder_connect

theorem Connects.requests (h : Connects M c rs es m) :
    rs = if M.isConnected c.manager then [] else [.connect] := by
  cases h with
  | already hc => rw [if_pos hc]
  | now hf ho => rw [hf, if_neg Bool.false_ne_true]

theorem Connects.events (h : Connects M c rs es m) (law : M.LawfulAt c.manager) :
    ∀ e ∈ es, e.source = .manager := by
  cases h with
  | already => exact List.forall_mem_nil _
  | now => exact law.connect_events

theorem Connects.lawful (h : Connects M c rs es m) (law : M.LawfulAt c.manager)
    (law' : M.LawfulAt (M.connect c.manager).next) : M.LawfulAt m := by
  cases h with
  | already => exact law
  | now => exact law'

theorem Course.kept (h : Course M c rs o) : o.next.state = c.state ∧ o.next.options = c.options := by
  cases h <;> exact ⟨rfl, rfl⟩

theorem Course.manager (h : Course M c rs o) (law : M.LawfulAt c.manager)
    (law' : M.LawfulAt (M.connect c.manager).next) :
    M.inTransaction o.next.manager = M.inTransaction c.manager ∧
      M.placeholder o.next.manager = M.placeholder c.manager := by
  cases h with
  | unconnected => exact ⟨law.inTransaction_connect, law.placeholder_connect⟩
  | uncompiled e h => exact ⟨h.inTransaction law, h.placeholder law⟩
  | sent b h =>
    have lawm := h.lawful law law'
    exact ⟨(lawm.inTransaction_query ..).trans (h.inTransaction law),
      (lawm.placeholder_query ..).trans (h.placeholder law)⟩

/-- A manager is asked to connect if it is not connected, and for nothing else but the query. -/
theorem Course.requests (h : Course M c rs o) :
    ∃ sent, rs = (if M.isConnected c.manager then [] else [.connect]) ++ sent ∧
      (sent = [] ∨ ∃ b, c.build M = .ok b ∧ sent = [.query b.sql b.params]) := by
  cases h with
  | unconnected e hf he => exact ⟨[], by rw [hf]; rfl, .inl rfl⟩
  | uncompiled e h hb => exact ⟨[], by rw [List.append_nil, h.requests], .inl rfl⟩
  | sent b h hb => exact ⟨_, by rw [h.requests], .inr ⟨b, hb, rfl⟩⟩

theorem Course.answered (h : Course M c rs o) (law : M.LawfulAt c.manager)
    (law' : M.LawfulAt (M.connect c.manager).next) {r : QueryResult} (hr : o.result = .ok r) :
    ∃ b, c.build M = .ok b ∧ r.sql = b.sql ∧ r.params = b.params := by
  cases h with
  | unconnected => cases hr
  | uncompiled => cases hr
  | @sent _ _ m b h hb =>
    refine ⟨b, hb, ?_⟩
    cases hq : (M.query b.sql b.params m).result with
    | error e =>
      rw [hq] at hr
      cases hr
    | ok x =>
      rw [hq] at hr
      cases hr
      exact (h.lawful law law').query_ok _ _ _ hq

/-- Errors of the connection and of the compiler are told as they are; one of the statement is told
as one of an execution, once. -/
theorem Course.refused (h : Course M c rs o) (law : M.LawfulAt c.manager)
    (law' : M.LawfulAt (M.connect c.manager).next) {e : Error} (he : o.result = .error e) :
    (∃ backend message, e = .database backend .connect message ∧ rs = [.connect]) ∨
      (∃ message, e = .validation message ∧ c.build M = .error e) ∨
        ∃ backend message, e = .execution (.database backend .query message) ∧
          e.operation? = some .query := by
  cases h with
  | unconnected f hf hr =>
    cases he
    obtain ⟨backend, message, rfl⟩ := law.connect_error _ hr
    exact .inl ⟨backend, message, rfl, rfl⟩
  | uncompiled f h hb =>
    cases he
    refine .inr (.inl ?_)
    have hmap := hb
    rw [build, QueryState.build] at hmap
    cases hx : c.state.compile (M.placeholder c.manager) with
    | error x =>
      rw [hx] at hmap
      cases hmap
      exact ⟨x.message, rfl, hb⟩
    | ok x =>
      rw [hx] at hmap
      cases hmap
  | @sent _ _ m b h hb =>
    refine .inr (.inr ?_)
    cases hq : (M.query b.sql b.params m).result with
    | error f =>
      rw [hq] at he
      cases he
      obtain ⟨backend, message, rfl⟩ :=
        (h.lawful law law').query_error (h.isConnected law) _ _ _ hq
      exact ⟨backend, message, rfl, rfl⟩
    | ok x =>
      rw [hq] at he
      cases he

theorem executing_notMem {fs : List Event} (h : ∀ e ∈ fs, e.source = .manager) (sql : String)
    (params : List Value) : .executing sql params ∉ fs := by
  intro hm
  have hs : EventSource.client = .manager := h _ hm
  cases hs

theorem mem_announcement (b : BuiltQuery) (sql : String) (params : List Value) :
    .executing sql params ∈ c.announcement b ↔
      c.options.logging = true ∧ sql = b.sql ∧ params = b.params := by
  rw [announcement]
  split <;> simp [*]

theorem Connects.query_notMem (h : Connects M c rs es m) (sql : String) (params : List Value) :
    .query sql params ∉ rs := by
  cases h with
  | already => exact List.not_mem_nil
  | now => simp

/-- What is about to run is reported if reports are asked for and if it is about to run. -/
theorem Course.executing (h : Course M c rs o) (law : M.LawfulAt c.manager)
    (law' : M.LawfulAt (M.connect c.manager).next) (sql : String) (params : List Value) :
    .executing sql params ∈ o.events ↔ c.options.logging = true ∧ .query sql params ∈ rs := by
  cases h with
  | unconnected => simp [executing_notMem law.connect_events]
  | uncompiled e h => simp [executing_notMem (h.events law), h.query_notMem]
  | @sent _ _ m b h =>
    have hq := (h.lawful law law').query_events b.sql b.params
    simp [executing_notMem (h.events law), executing_notMem hq, h.query_notMem, mem_announcement]

end Kept

/-! ### The contract of an execution -/

/-- What an execution does, whatever the query, the options and the state of the manager. -/
structure Executes (M : Manager μ) (c : Client μ) : Prop where
  /-- It takes one of the courses. -/
  course : Course M c (c.requests M) (c.executeResult M)
  /-- What the manager keeps a list of is what it does without the list. -/
  unseen : (c.logged.executeResult M.logged).lift (onto Prod.fst) = c.executeResult M
  /-- It asks for a connection, once, if there is none, and then for the query as compiled, once, or
  for nothing. -/
  asked : ∃ sent,
    c.requests M = (if M.isConnected c.manager then [] else [.connect]) ++ sent ∧
      (sent = [] ∨ ∃ b, c.build M = .ok b ∧ sent = [.query b.sql b.params])
  /-- In a transaction there is a connection. -/
  pinned : c.inTransaction M → .connect ∉ c.requests M
  refused : ∀ e, (c.executeResult M).result = .error e →
    (∃ backend message, e = .database backend .connect message ∧ c.requests M = [.connect]) ∨
      (∃ message, e = .validation message ∧ c.build M = .error e) ∨
        ∃ backend message, e = .execution (.database backend .query message) ∧
          e.operation? = some .query
  answered : ∀ r, (c.executeResult M).result = .ok r →
    ∃ b, c.build M = .ok b ∧ r.sql = b.sql ∧ r.params = b.params
  executing : ∀ sql params, .executing sql params ∈ (c.executeResult M).events ↔
    c.options.logging = true ∧ .query sql params ∈ c.requests M
  state : (c.executeResult M).next.state = c.state
  options : (c.executeResult M).next.options = c.options
  /-- A retry sends the same. -/
  retry : (c.executeResult M).next.build M = c.build M
  inTransaction : (c.executeResult M).next.inTransaction M = c.inTransaction M

theorem executes_of_lawful (c : Client μ) (law : M.LawfulAt c.manager)
    (law' : M.LawfulAt (M.connect c.manager).next) : c.Executes M := by
  have course := executeResult_course c law.placeholder_connect
  obtain ⟨hstate, hoptions⟩ := course.kept
  obtain ⟨htransaction, hplaceholder⟩ := course.manager law law'
  refine ⟨course, executeResult_onto M.maps_logged c.logged, course.requests, ?_,
    fun e he => course.refused law law' he, fun r hr => course.answered law law' hr,
    course.executing law law', hstate, hoptions, ?_, htransaction⟩
  · intro ht
    obtain ⟨sent, hr, hs⟩ := course.requests
    have hc : M.isConnected c.manager := law.isConnected ht
    rw [hr, if_pos hc]
    rcases hs with rfl | ⟨b, -, rfl⟩
    · exact List.not_mem_nil
    · simp
  · rw [build, build, hstate, hplaceholder]

end Client

/-! ### In every state -/

theorem Manager.connect_run (M : Manager μ) (rs : List Request) (m : μ) :
    (M.connect (M.run rs m)).next = M.run (rs ++ [.connect]) m := by
  rw [run, run, List.foldl_append]
  rfl

/-- What holds of lawful managers holds in every state of a manager that is lawful in all of its
states. -/
theorem Client.executes_run {M : Manager μ} {start : μ}
    (law : ∀ rs, M.LawfulAt (M.run rs start)) (rs : List Request) (q : QueryState) (o : Options) :
    (Client.mk (M.run rs start) q o).Executes M := by
  refine executes_of_lawful _ (law rs) ?_
  rw [M.connect_run]
  exact law _

/-- Whatever has been asked of a manager and whatever came of it: an execution takes one of three
courses, with what clients rely on in each. This is so over every pool, whoever opened it, over
every embedded engine, and over the manager of every configuration, whatever engine stands behind
it. -/
theorem client_executes (q : QueryState) (options : Options) (rs : List Request) :
    (∀ (d : PoolDriver σ P H) (shared : Option P) (w : σ),
        (Client.mk ((Pooled.manager d).run rs (Pooled.fresh shared, w)) q options).Executes
          (Pooled.manager d)) ∧
      (∀ (e : Engine τ) (path : String) (w : τ),
        (Client.mk ((Embedded.manager e).run rs ({ path }, w)) q options).Executes
          (Embedded.manager e)) ∧
      ∀ (e : Engine τ) (w : τ) (config : Config),
        (Client.mk ((AnyManager.manager e).run rs (.start w config)) q options).Executes
          (AnyManager.manager e) := by
  refine ⟨?_, ?_, ?_⟩
  · intro d shared w
    exact Client.executes_run
      (fun rs => Pooled.lawfulAt d (Pooled.sound_run_fresh d shared w rs)) rs q options
  · intro e path w
    exact Client.executes_run
      (fun rs => Embedded.lawfulAt e (Embedded.sound_run_fresh e path w rs)) rs q options
  · intro e w config
    exact Client.executes_run (AnyManager.lawfulAt_run e w config) rs q options

end FluentSql
