import FluentSql.Connection.Any
import FluentSql.Proofs.Client.Closing
import FluentSql.Proofs.Connection.Single

/-! What clients rely on in a manager: that a transaction has a connection, that connecting and
asking touch neither the transaction nor the style of placeholders, and what their errors are.
Managers of pools and of embedded engines are lawful in every state they can be in, and a map of
managers carries laws along, so that a manager of any backend is lawful as well. -/

namespace FluentSql

variable {σ τ P H μ ν : Type}

/-- The laws of a manager in a state. -/
structure Manager.LawfulAt (M : Manager μ) (m : μ) : Prop where
  isConnected : M.inTransaction m → M.isConnected m
  placeholder_connect : M.placeholder (M.connect m).next = M.placeholder m
  inTransaction_connect : M.inTransaction (M.connect m).next = M.inTransaction m
  isConnected_connect : (M.connect m).result = .ok () → M.isConnected (M.connect m).next
  connect_error : ∀ e, (M.connect m).result = .error e →
    ∃ backend message, e = .database backend .connect message
  placeholder_query : ∀ sql params, M.placeholder (M.query sql params m).next = M.placeholder m
  inTransaction_query : ∀ sql params,
    M.inTransaction (M.query sql params m).next = M.inTransaction m
  query_ok : ∀ sql params r, (M.query sql params m).result = .ok r →
    r.sql = sql ∧ r.params = params
  query_error : M.isConnected m → ∀ sql params e, (M.query sql params m).result = .error e →
    ∃ backend message, e = .database backend .query message
  connect_events : ∀ e ∈ (M.connect m).events, e.source = .manager
  query_events : ∀ sql params, ∀ e ∈ (M.query sql params m).events, e.source = .manager

/-- A map of managers carries the laws along. -/
theorem Manager.Maps.lawfulAt {f : μ → ν} {M : Manager μ} {N : Manager ν} (h : M.Maps f N) {m : μ}
    (hm : M.LawfulAt m) : N.LawfulAt (f m) where
  isConnected := by
    rw [← h.inTransaction, ← h.isConnected]
    exact hm.isConnected
  placeholder_connect := by
    rw [← h.connect, ← h.placeholder]
    exact (h.placeholder _).symm.trans hm.placeholder_connect
  inTransaction_connect := by
    rw [← h.connect, ← h.inTransaction]
    exact (h.inTransaction _).symm.trans hm.inTransaction_connect
  isConnected_connect := by
    rw [← h.connect]
    intro hr
    exact (h.isConnected _).symm.trans (hm.isConnected_connect hr)
  connect_error := by
    rw [← h.connect]
    exact hm.connect_error
  placeholder_query sql params := by
    rw [← h.query, ← h.placeholder]
    exact (h.placeholder _).symm.trans (hm.placeholder_query sql params)
  inTransaction_query sql params := by
    rw [← h.query, ← h.inTransaction]
    exact (h.inTransaction _).symm.trans (hm.inTransaction_query sql params)
  query_ok sql params := by
    rw [← h.query]
    exact hm.query_ok sql params
  query_error hc sql params := by
    rw [← h.query]
    exact hm.query_error ((h.isConnected m).trans hc) sql params
  connect_events := by
    rw [← h.connect]
    exact hm.connect_events
  query_events sql params := by
    rw [← h.query]
    exact hm.query_events sql params

/-! ### Pools -/

namespace Pooled

variable (d : PoolDriver σ P H)

/-- Connecting fails, or leaves a pool and the same transaction. -/
theorem connect_cases (m : Pooled P H) (w : σ) :
    (∃ e : DriverError, (connect d m w).result = .error (e.during d.name .connect) ∧
        (connect d m w).next.1 = m) ∨
      (connect d m w).result = .ok () ∧ (connect d m w).next.1.isConnected ∧
        (connect d m w).next.1.transaction = m.transaction := by
  obtain ⟨_ | p, owns, x⟩ := m
  · simp only [connect]
    rcases d.openPool w with ⟨e | p, v⟩
    · exact .inl ⟨e, rfl, rfl⟩
    · exact .inr ⟨rfl, rfl, rfl⟩
  · exact .inr ⟨rfl, rfl, rfl⟩

theorem query_cases (sql : String) (params : List Value) {m : Pooled P H} (hm : m.isConnected)
    (w : σ) :
    (∃ e : DriverError, (query d sql params m w).result = .error (e.during d.name .query)) ∨
      ∃ raw, (query d sql params m w).result = .ok (.ofRaw sql params raw) := by
  obtain ⟨_ | p, owns, x⟩ := m
  · exact absurd hm Bool.false_ne_true
  · simp only [query]
    rcases run d _ p sql params w with ⟨e | raw, v⟩
    · exact .inl ⟨e, rfl⟩
    · exact .inr ⟨raw, rfl⟩

theorem connect_events (m : Pooled P H) (w : σ) :
    ∀ e ∈ (connect d m w).events, e.source = .manager := by
  obtain ⟨_ | p, owns, x⟩ := m
  · simp only [connect]
    rcases d.openPool w with ⟨e | p, v⟩
    · exact List.forall_mem_nil _
    · exact List.forall_mem_singleton.2 rfl
  · exact List.forall_mem_nil _

theorem query_events (sql : String) (params : List Value) (m : Pooled P H) (w : σ) :
    ∀ e ∈ (query d sql params m w).events, e.source = .manager := by
  obtain ⟨_ | p, owns, x⟩ := m
  · exact List.forall_mem_nil _
  · simp only [query]
    rcases run d _ p sql params w with ⟨e | raw, v⟩
    · exact List.forall_mem_nil _
    · exact List.forall_mem_singleton.2 rfl

theorem lawfulAt {s : World σ P H} (h : s.1.Sound) : (manager d).LawfulAt s where
  isConnected := h
  placeholder_connect := rfl
  inTransaction_connect := by
    rcases connect_cases d s.1 s.2 with ⟨e, -, hn⟩ | ⟨-, -, hn⟩
    · exact congrArg Pooled.inTransaction hn
    · exact congrArg Option.isSome hn
  isConnected_connect hr := by
    rcases connect_cases d s.1 s.2 with ⟨e, he, -⟩ | ⟨-, hc, -⟩
    · cases he.symm.trans hr
    · exact hc
  connect_error e hr := by
    rcases connect_cases d s.1 s.2 with ⟨f, hf, -⟩ | ⟨ho, -, -⟩
    · cases hf.symm.trans hr
      exact ⟨d.name, f.message, rfl⟩
    · cases ho.symm.trans hr
  placeholder_query _ _ := rfl
  inTransaction_query sql params := congrArg Pooled.inTransaction (fst_query d s.1 s.2 sql params)
  query_ok sql params r hr := by
    by_cases hc : s.1.isConnected
    · rcases query_cases d sql params hc s.2 with ⟨e, he⟩ | ⟨raw, hraw⟩
      · cases he.symm.trans hr
      · cases hraw.symm.trans hr
        exact ⟨rfl, rfl⟩
    · obtain ⟨⟨_ | p, owns, x⟩, w⟩ := s
      · cases hr
      · exact absurd rfl hc
  query_error hc sql params e hr := by
    rcases query_cases d sql params hc s.2 with ⟨f, hf⟩ | ⟨raw, hraw⟩
    · cases hf.symm.trans hr
      exact ⟨d.name, f.message, rfl⟩
    · cases hraw.symm.trans hr
  connect_events := connect_events d s.1 s.2
  query_events sql params := query_events d sql params s.1 s.2

/-- A manager is sound in every state that it can be in. -/
theorem sound_run_fresh (shared : Option P) (w : σ) (rs : List Request) :
    ((manager d).run rs (fresh shared, w)).1.Sound := by
  intro ht
  have h := sound_run d shared w rs
  rw [← forget_run_recorded] at ht ⊢
  exact Option.isSome_map.trans (h (Option.isSome_map.symm.trans ht))

end Pooled

/-! ### Embedded engines -/

namespace Embedded

variable (e : Engine τ)

theorem connect_cases (m : Embedded) (w : τ) :
    (∃ f : DriverError, (connect e m w).result = .error (f.during e.name .connect) ∧
        (connect e m w).next.1 = m) ∨
      (connect e m w).result = .ok () ∧
        (connect e m w).next.1 = { m with isConnected := true } := by
  obtain ⟨path, _ | _, i⟩ := m
  · simp only [connect]
    rcases e.openPath path w with ⟨f | u, v⟩
    · exact .inl ⟨f, rfl, rfl⟩
    · exact .inr ⟨rfl, rfl⟩
  · exact .inr ⟨rfl, rfl⟩

theorem query_cases (sql : String) (params : List Value) {m : Embedded} (hm : m.isConnected)
    (w : τ) :
    (∃ f : DriverError, (query e sql params m w).result = .error (f.during e.name .query)) ∨
      ∃ raw, (query e sql params m w).result = .ok (.ofRaw sql params raw) := by
  rw [query, if_pos hm]
  rcases e.execute sql params w with ⟨f | raw, v⟩
  · exact .inl ⟨f, rfl⟩
  · exact .inr ⟨raw, rfl⟩

theorem connect_events (m : Embedded) (w : τ) :
    ∀ x ∈ (connect e m w).events, x.source = .manager := by
  obtain ⟨path, _ | _, i⟩ := m
  · simp only [connect]
    rcases e.openPath path w with ⟨f | u, v⟩
    · exact List.forall_mem_nil _
    · exact List.forall_mem_singleton.2 rfl
  · exact List.forall_mem_nil _

theorem query_events (sql : String) (params : List Value) (m : Embedded) (w : τ) :
    ∀ x ∈ (query e sql params m w).events, x.source = .manager := by
  rw [query]
  split
  · rcases e.execute sql params w with ⟨f | raw, v⟩
    · exact List.forall_mem_nil _
    · exact List.forall_mem_singleton.2 rfl
  · exact List.forall_mem_nil _

theorem lawfulAt {s : World τ} (h : s.1.Sound) : (manager e).LawfulAt s where
  isConnected := h
  placeholder_connect := rfl
  inTransaction_connect := by
    rcases connect_cases e s.1 s.2 with ⟨f, -, hn⟩ | ⟨-, hn⟩
    · exact congrArg Embedded.inTransaction hn
    · have hi := congrArg Embedded.inTransaction hn
      exact hi
  isConnected_connect hr := by
    rcases connect_cases e s.1 s.2 with ⟨f, hf, -⟩ | ⟨-, hn⟩
    · cases hf.symm.trans hr
    · exact congrArg Embedded.isConnected hn
  connect_error g hr := by
    rcases connect_cases e s.1 s.2 with ⟨f, hf, -⟩ | ⟨ho, -⟩
    · cases hf.symm.trans hr
      exact ⟨e.name, f.message, rfl⟩
    · cases ho.symm.trans hr
  placeholder_query _ _ := rfl
  inTransaction_query sql params :=
    congrArg Embedded.inTransaction (fst_query e sql params s.1 s.2)
  query_ok sql params r hr := by
    by_cases hc : s.1.isConnected
    · rcases query_cases e sql params hc s.2 with ⟨f, hf⟩ | ⟨raw, hraw⟩
      · cases hf.symm.trans hr
      · cases hraw.symm.trans hr
        exact ⟨rfl, rfl⟩
    · obtain ⟨⟨path, _ | _, i⟩, w⟩ := s
      · cases hr
      · exact absurd rfl hc
  query_error hc sql params g hr := by
    rcases query_cases e sql params hc s.2 with ⟨f, hf⟩ | ⟨raw, hraw⟩
    · cases hf.symm.trans hr
      exact ⟨e.name, f.message, rfl⟩
    · cases hraw.symm.trans hr
  connect_events := connect_events e s.1 s.2
  query_events sql params := query_events e sql params s.1 s.2

theorem sound_run_fresh (path : String) (w : τ) (rs : List Request) :
    ((manager e).run rs ({ path }, w)).1.Sound := by
  have h : ((manager e.recorded).run rs (recorded path w)).1.Sound := by
    refine (manager e.recorded).run_induction (P := fun s => s.1.Sound) ?_ rs ?_
    · intro r s hs
      obtain ⟨fails, hf⟩ := perform_follows e r s hs
      exact hf.sound
    · exact fun h => absurd h Bool.false_ne_true
  have hrun := (maps_forget e).run rs (recorded path w)
  intro ht
  rw [show (({ path } : Embedded), w) = forget (recorded path w) from rfl, ← hrun] at ht ⊢
  exact h ht

end Embedded

/-! ### Any backend -/

namespace AnyManager

variable (e : Engine τ)

theorem maps_mysql : (Pooled.manager MySql.driver).Maps AnyManager.mysql (manager e) :=
  ⟨fun _ => rfl, fun _ => rfl, fun _ => rfl, fun _ => rfl, fun _ => rfl, fun _ _ _ => rfl,
    fun _ => rfl, fun _ => rfl, fun _ => rfl⟩

theorem maps_postgres : (Pooled.manager Postgres.driver).Maps AnyManager.postgres (manager e) :=
  ⟨fun _ => rfl, fun _ => rfl, fun _ => rfl, fun _ => rfl, fun _ => rfl, fun _ _ _ => rfl,
    fun _ => rfl, fun _ => rfl, fun _ => rfl⟩

theorem maps_sqlite : (Embedded.manager e).Maps AnyManager.sqlite (manager e) :=
  ⟨fun _ => rfl, fun _ => rfl, fun _ => rfl, fun _ => rfl, fun _ => rfl, fun _ _ _ => rfl,
    fun _ => rfl, fun _ => rfl, fun _ => rfl⟩

/-- The manager of any backend is lawful in every state that it can be in. -/
theorem lawfulAt_run (w : τ) (c : Config) (rs : List Request) :
    (manager e).LawfulAt ((manager e).run rs (start w c)) := by
  rw [start]
  split
  · rw [← (maps_mysql e).run]
    exact (maps_mysql e).lawfulAt (Pooled.lawfulAt _ (Pooled.sound_run_fresh _ none _ rs))
  · rw [← (maps_postgres e).run]
    exact (maps_postgres e).lawfulAt (Pooled.lawfulAt _ (Pooled.sound_run_fresh _ none _ rs))
  · rw [← (maps_sqlite e).run]
    exact (maps_sqlite e).lawfulAt (Embedded.lawfulAt _ (Embedded.sound_run_fresh _ _ _ rs))

end AnyManager

end FluentSql
