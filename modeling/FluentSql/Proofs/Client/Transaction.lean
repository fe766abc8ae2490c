import FluentSql.Proofs.Client.Maps
import FluentSql.Proofs.Connection.Phase
import Mathlib.Data.List.Forall2

/-! Transactions of a client over a pooled manager, from begin to end. Either none can be begun, and
the body does not run; or the record grows by one handle's calls: it is taken, the transaction
begins, the body's statements run on it, the transaction is committed or rolled back, and the handle
goes back. Whatever happens, the manager is afterwards as it was before, `transaction_course`. -/

namespace FluentSql

namespace Pooled

variable {σ P H α : Type}

/-- The record's numbers and the record itself are all that `forget` takes away. -/
theorem maps_forget (d : PoolDriver σ P H) : (manager d.recorded).Maps forget (manager d) where
  placeholder _ := rfl
  isConnected _ := (Option.isSome_map ..).symm
  inTransaction _ := (Option.isSome_map ..).symm
  connect s := forget_connect d s.1 s.2
  disconnect s := forget_disconnect d s.1 s.2
  query sql params s := forget_query d s.1 s.2 sql params
  begin s := forget_begin d s.1 s.2
  commit s := forget_commit d s.1 s.2
  rollback s := forget_rollback d s.1 s.2

/-! ### The manager behind a transaction -/

section Kept

variable (d : PoolDriver σ P H) (m : Pooled P H) (w : σ)

/-- A statement takes a handle and gives it back, or runs on the one that the manager keeps. -/
theorem fst_query (sql : String) (params : List Value) :
    (query d sql params m w).next.1 = m := by
  obtain ⟨_ | p, owns, x⟩ := m
  · rfl
  · simp only [query]
    rcases run d _ p sql params w with ⟨e | raw, v⟩ <;> rfl

theorem fst_begin :
    (∃ e, (begin d m w).result = .error e ∧ (begin d m w).next.1 = m) ∨
      (begin d m w).result = .ok () ∧ m.transaction = none ∧ m.isConnected ∧
        ∃ h, (begin d m w).next.1 = { m with transaction := some h } := by
  obtain ⟨_ | p, owns, _ | x⟩ := m
  · exact .inl ⟨_, rfl, rfl⟩
  · exact .inl ⟨_, rfl, rfl⟩
  · simp only [begin]
    rcases d.acquire p w with ⟨e | h, v⟩
    · exact .inl ⟨_, rfl, rfl⟩
    · simp only
      rcases d.begin h v with ⟨e | u, v⟩
      · exact .inl ⟨_, rfl, rfl⟩
      · exact .inr ⟨rfl, trivial, rfl, h, rfl⟩
  · exact .inl ⟨_, rfl, rfl⟩

theorem fst_commit : (commit d m w).next.1 = { m with transaction := none } := by
  obtain ⟨pool, owns, _ | h⟩ := m
  · rfl
  · simp only [commit]
    rcases d.commit h w with ⟨e | u, v⟩
    · simp only
      rcases d.rollback h v with ⟨r | u, v⟩ <;> rfl
    · rfl

theorem fst_rollback : (rollback d m w).next.1 = { m with transaction := none } := by
  obtain ⟨pool, owns, _ | h⟩ := m
  · rfl
  · simp only [rollback]
    rcases d.rollback h w with ⟨e | u, v⟩ <;> rfl

theorem fst_finish (r : Except Error α) (c : Client (World σ P H)) :
    ((Client.bracket (manager d)).finish r c).next.manager.1 =
      { c.manager.1 with transaction := none } := by
  rw [Bracket.next_finish]
  cases r with
  | ok a => exact fst_commit d c.manager.1 c.manager.2
  | error e => exact fst_rollback d c.manager.1 c.manager.2

/-- Whatever happens in a transaction, the manager is afterwards as it was before. -/
theorem fst_transaction (body : Body α) (c : Client (World σ P H)) :
    ((Client.bracket (manager d)).transaction (body.run (manager d)) c).next.manager.1 =
      c.manager.1 := by
  rcases fst_begin d c.manager.1 c.manager.2 with ⟨e, hr, hn⟩ | ⟨hr, ht, hc, h, hn⟩
  · rw [Bracket.transaction_of_error _ _ (e := e) hr]
    exact hn
  · have hbody : (body.run (manager d) (c.begin (manager d)).next).next.manager.1 =
        ⟨c.manager.1.pool, c.manager.1.ownsPool, some h⟩ :=
      body.fst_run (fun _ => hc) (fun sql params w => fst_query d _ w sql params) hn
    rw [Bracket.transaction_of_ok _ _ hr]
    refine (fst_finish d _ _).trans ?_
    refine (congrArg (fun m : Pooled P H => { m with transaction := none }) hbody).trans ?_
    rw [← ht]

end Kept

/-! ### The course of a transaction -/

/-- A transaction cannot be begun, with these calls and this error; `k` is the number of the next
handle. -/
inductive Refused (name : String) (m : Pooled (Nat × P) (Nat × H)) (k : Nat) :
    List DriverEvent → Error → Prop where
  | busy : m.inTransaction → Refused name m k [] (.state "transaction already in progress")
  | unconnected : m.transaction = none → m.pool = none → Refused name m k [] (notConnected name)
  | unacquired {p : Nat × P} (e : DriverError) : m.transaction = none → m.pool = some p →
      Refused name m k [.acquireFailed p.1 e] (e.during name .beginTransaction)
  | unbegun {p : Nat × P} (e : DriverError) : m.transaction = none → m.pool = some p →
      Refused name m k [.on k (.acquire p.1), .on k (.begin (some e)), .on k .release]
        (e.during name .beginTransaction)

/-- The entry is the execution of a query on the handle with this number. -/
def Executes (k : Nat) (b : BuiltQuery) (e : DriverEvent) : Prop :=
  ∃ failure, e = .on k (.execute b.sql b.params failure)

/-- How a transaction ends behind a body with this result: the calls on its handle, and what comes
of the whole. -/
inductive Ended (name : String) : Except Error α → List HandleCall → Except Error α → Prop where
  | committed (a : α) : Ended name (.ok a) [.commit none, .release] (.ok a)
  | uncommitted (a : α) (e : DriverError) (failure : Option DriverError) :
      Ended name (.ok a) [.commit (some e), .rollback failure, .release]
        (.error (e.during name .commit))
  | rolledBack (e : Error) : Ended name (.error e) [.rollback none, .release] (.error e)
  | stranded (e : Error) (r : DriverError) :
      Ended name (.error e) [.rollback (some r), .release] (.error (.other
        s!"{e.message} (rollback failed: {(r.during name .rollback).message})"))

/-! ### Its parts -/

open PoolDriver

variable (d : PoolDriver σ P H)

theorem begin_course (m : Pooled (Nat × P) (Nat × H)) (w : Recorded σ) :
    let o := begin d.recorded m w
    (∃ calls e, Refused d.name m w.nextHandle calls e ∧ o.result = .error e ∧
        o.next.2.log = w.log ++ calls) ∨
      ∃ p h, m.transaction = none ∧ m.pool = some p ∧ o.result = .ok () ∧
        o.next.1 = { m with transaction := some (w.nextHandle, h) } ∧
        o.next.2.log = w.log ++
          [.on w.nextHandle (.acquire p.1), .on w.nextHandle (.begin none)] := by
  obtain ⟨_ | p, owns, _ | x⟩ := m
  · exact .inl ⟨[], _, .unconnected rfl rfl, rfl, (List.append_nil _).symm⟩
  · exact .inl ⟨[], _, .busy rfl, rfl, (List.append_nil _).symm⟩
  · simp only [begin, recorded_acquire]
    rcases d.acquire p.2 w.world with ⟨e | h, v⟩
    · exact .inl ⟨_, _, .unacquired e rfl rfl, rfl, rfl⟩
    · simp only [recorded_begin, recorded_release, Recorded.world_note]
      rcases d.begin h v with ⟨e | u, v⟩
      · exact .inl ⟨_, _, .unbegun e rfl rfl, rfl, append_three _ _ _ _⟩
      · exact .inr ⟨p, h, trivial, rfl, rfl, rfl, List.append_assoc _ [_] [_]⟩
  · exact .inl ⟨[], _, .busy rfl, rfl, (List.append_nil _).symm⟩

/-- In a transaction a statement is one call on its handle. -/
theorem query_course (p : Nat × P) (owns : Bool) (x : Nat × H) (w : Recorded σ) (b : BuiltQuery) :
    ∃ e, Executes x.1 b e ∧
      (query d.recorded b.sql b.params ⟨some p, owns, some x⟩ w).next.2.log = w.log ++ [e] := by
  simp only [query, run, recorded_execute]
  rcases d.execute x.2 b.sql b.params w.world with ⟨e | raw, v⟩
  · exact ⟨_, ⟨some e, rfl⟩, rfl⟩
  · exact ⟨_, ⟨none, rfl⟩, rfl⟩

/-- In a transaction a body is one call on its handle for each statement it sends. -/
theorem body_course (body : Body α) (c : Client (RecordedWorld σ P H)) {p : Nat × P}
    {x : Nat × H} (hp : c.manager.1.pool = some p) (hx : c.manager.1.transaction = some x) :
    let M := manager d.recorded
    ∃ es, List.Forall₂ (Executes x.1) (body.sent M c) es ∧
      (body.run M c).next.manager.2.log = c.manager.2.log ++ es := by
  intro M
  obtain ⟨⟨⟨_, owns, _⟩, w⟩, q, options⟩ := c
  subst hp hx
  -- Behind the statements `bs` the manager is the same, and the record has grown by them.
  have h := Body.run_induction (M := M)
    (R := fun bs s => s.1 = ⟨some p, owns, some x⟩ ∧
      ∃ es, List.Forall₂ (Executes x.1) bs es ∧ s.2.log = w.log ++ es) ?_ ?_ body []
    (c := ⟨(⟨some p, owns, some x⟩, w), q, options⟩) ⟨rfl, [], .nil, (List.append_nil _).symm⟩
  · exact h.2
  · rintro bs ⟨m, v⟩ ⟨rfl, -⟩
    rfl
  · rintro bs b ⟨m, v⟩ ⟨rfl, es, hes, hv⟩
    obtain ⟨e, he, hl⟩ := query_course d p owns x v b
    refine ⟨fst_query d.recorded _ v b.sql b.params, es ++ [e],
      List.rel_append hes (.cons he .nil), ?_⟩
    rw [← List.append_assoc, ← hv]
    exact hl

theorem finish_course (r : Except Error α) (c : Client (RecordedWorld σ P H)) {x : Nat × H}
    (hx : c.manager.1.transaction = some x) :
    let o := (Client.bracket (manager d.recorded)).finish r c
    o.next.state = c.state ∧
      ∃ calls, Ended d.name r calls o.result ∧
        o.next.manager.2.log = c.manager.2.log ++ calls.map (.on x.1) := by
  obtain ⟨⟨⟨pool, owns, _⟩, w⟩, q, options⟩ := c
  subst hx
  cases r with
  | ok a =>
    simp only [Bracket.finish, Client.bracket, Client.commit, Client.onManager, manager, commit,
      recorded_commit]
    rcases d.commit x.2 w.world with ⟨e | u, v⟩
    · simp only [recorded_rollback, recorded_release, Recorded.world_note]
      rcases d.rollback x.2 v with ⟨r | u, v⟩
      · exact ⟨rfl, _, .uncommitted a e (some r), append_three _ _ _ _⟩
      · exact ⟨rfl, _, .uncommitted a e none, append_three _ _ _ _⟩
    · exact ⟨rfl, _, .committed a, List.append_assoc _ [_] [_]⟩
  | error e =>
    simp only [Bracket.finish, Client.bracket, Client.rollback, Client.onManager, manager, rollback,
      recorded_rollback, recorded_release]
    rcases d.rollback x.2 w.world with ⟨r | u, v⟩
    · exact ⟨rfl, _, .stranded e r, List.append_assoc _ [_] [_]⟩
    · exact ⟨rfl, _, .rolledBack e, List.append_assoc _ [_] [_]⟩

/-- The course of a transaction, whatever its body does and whatever the driver answers. Either it
cannot be begun: then its outcome is that of the begin, the same for every body, and the query is
untouched. Or the driver is called for one handle only: it is taken and the transaction begins,
every query of the body that compiled is executed on it, in order, and the transaction ends as its
body did. In both cases the manager is left as it was found, and the record changes nothing. -/
theorem transaction_course (body : Body α) (c : Client (RecordedWorld σ P H)) :
    let M := manager d.recorded
    let b := c.begin M
    let ran := body.run M b.next
    let o := (Client.bracket M).transaction (body.run M) c
    let m := c.manager.1
    let k := c.manager.2.nextHandle
    o.lift (Client.onto forget) =
        (Client.bracket (manager d)).transaction (body.run (manager d)) (c.onto forget) ∧
      o.next.manager.1 = m ∧
      ((∃ calls e, Refused d.name m k calls e ∧ b.result = .error e ∧
          o = ⟨.error e, b.next, b.events⟩ ∧ o.next.state = c.state ∧
          o.next.manager.2.log = c.manager.2.log ++ calls) ∨
        ∃ p es calls, m.transaction = none ∧ m.pool = some p ∧ b.result = .ok () ∧
          List.Forall₂ (Executes k) (body.sent M b.next) es ∧
          Ended d.name ran.result calls o.result ∧ o.next.state = ran.next.state ∧
          o.next.manager.2.log = c.manager.2.log ++
            ([.on k (.acquire p.1), .on k (.begin none)] ++ es ++ calls.map (.on k))) := by
  intro M b ran o m k
  have hm : b.next.manager = (begin d.recorded m c.manager.2).next := rfl
  refine ⟨Body.transaction_onto (maps_forget d) body c, fst_transaction d.recorded body c, ?_⟩
  rcases begin_course d m c.manager.2 with ⟨calls, e, href, hr, hl⟩ | ⟨p, h, ht, hp, hr, hn, hl⟩
  · have hb : b.result = .error e := hr
    have ho : o = ⟨.error e, b.next, b.events⟩ := Bracket.transaction_of_error _ _ hb
    rw [ho]
    exact .inl ⟨calls, e, href, hb, rfl, rfl, hl⟩
  · have hb : b.result = .ok () := hr
    have ho : o = ((Client.bracket M).finish ran.result ran.next).after (b.events ++ ran.events) :=
      Bracket.transaction_of_ok _ _ hb
    rw [← hm] at hn hl
    -- The body keeps the handle, and the end of the transaction lets it go.
    have hkept : ran.next.manager.1 = { m with transaction := some (k, h) } :=
      body.fst_run (fun _ => congrArg Option.isSome hp)
        (fun sql params w => fst_query d.recorded _ w sql params) hn
    obtain ⟨es, hes, hel⟩ := body_course d body b.next (p := p) (x := (k, h))
      (by rw [hn]; exact hp) (by rw [hn])
    obtain ⟨hstate, calls, hend, hcl⟩ := finish_course d ran.result ran.next (x := (k, h))
      (by rw [hkept])
    rw [ho]
    refine .inr ⟨p, es, calls, ht, hp, hb, hes, hend, hstate, hcl.trans ?_⟩
    rw [hel, hl, List.append_assoc, List.append_assoc, List.append_assoc]

end Pooled

end FluentSql
