import FluentSql.Proofs.Connection.Phase
import Mathlib.Data.List.Induction

/-! The life of a handle. A handle is taken for one statement, or for a transaction that begins,
runs statements and ends, or for one that fails to begin; then it goes back, once, and is not used
again. A watch over the record knows the one handle that is out and the stage of its life, and
allows only the calls that continue it. What the watch allows consists of such lives, and a manager
makes only calls that the watch allows, `run_keeps_protocol`. -/

namespace FluentSql

namespace Handle

/-! ### Lives -/

/-- The calls on a handle in an open transaction. -/
inductive Open : List HandleCall → Prop where
  | begun (pool : Nat) : Open [.acquire pool, .begin none]
  | executed {cs : List HandleCall} (sql : String) (params : List Value)
      (failure : Option DriverError) : Open cs → Open (cs ++ [.execute sql params failure])

/-- The calls on a handle that went back. -/
inductive Finished : List HandleCall → Prop where
  | single (pool : Nat) (sql : String) (params : List Value) (failure : Option DriverError) :
      Finished [.acquire pool, .execute sql params failure, .release]
  | refused (pool : Nat) (e : DriverError) : Finished [.acquire pool, .begin (some e), .release]
  | committed {cs : List HandleCall} : Open cs → Finished (cs ++ [.commit none, .release])
  | uncommitted {cs : List HandleCall} (e : DriverError) (failure : Option DriverError) :
      Open cs → Finished (cs ++ [.commit (some e), .rollback failure, .release])
  | rolledBack {cs : List HandleCall} (failure : Option DriverError) :
      Open cs → Finished (cs ++ [.rollback failure, .release])

theorem Open.release_notMem {cs : List HandleCall} (h : Open cs) : .release ∉ cs := by
  induction h with
  | begun pool => simp
  | executed sql params failure _ ih => simp [ih]

theorem Open.acquire_mem {cs : List HandleCall} (h : Open cs) : ∃ pool, .acquire pool ∈ cs := by
  induction h with
  | begun pool => exact ⟨pool, by simp⟩
  | executed sql params failure _ ih =>
    obtain ⟨pool, hp⟩ := ih
    exact ⟨pool, List.mem_append_left _ hp⟩

theorem Finished.acquire_mem {ws : List HandleCall} (h : Finished ws) :
    ∃ pool, .acquire pool ∈ ws := by
  cases h with
  | single pool sql params failure => exact ⟨pool, by simp⟩
  | refused pool e => exact ⟨pool, by simp⟩
  | committed ho | uncommitted e failure ho | rolledBack failure ho =>
    obtain ⟨pool, hp⟩ := ho.acquire_mem
    exact ⟨pool, List.mem_append_left _ hp⟩

/-- A handle goes back once, and nothing is called on it afterwards. -/
theorem Finished.release_last {ws : List HandleCall} (h : Finished ws) :
    ∃ cs, ws = cs ++ [.release] ∧ .release ∉ cs := by
  cases h with
  | single pool sql params failure =>
    exact ⟨[.acquire pool, .execute sql params failure], rfl, by simp⟩
  | refused pool e => exact ⟨[.acquire pool, .begin (some e)], rfl, by simp⟩
  | @committed cs ho => exact ⟨cs ++ [.commit none], by simp, by simp [ho.release_notMem]⟩
  | @uncommitted cs e failure ho =>
    exact ⟨cs ++ [.commit (some e), .rollback failure], by simp, by simp [ho.release_notMem]⟩
  | @rolledBack cs failure ho =>
    exact ⟨cs ++ [.rollback failure], by simp, by simp [ho.release_notMem]⟩

theorem Finished.not_open {cs : List HandleCall} (h : Finished cs) : ¬ Open cs := by
  intro ho
  obtain ⟨cs', rfl, -⟩ := h.release_last
  exact ho.release_notMem (by simp)

/-- A transaction that was neither committed nor rolled back goes back only after a rollback that
failed. -/
theorem Finished.rollback_failed {ws : List HandleCall} (h : Finished ws)
    (hb : .begin none ∈ ws) (hc : .commit none ∉ ws) (hr : .rollback none ∉ ws) :
    ∃ e, .rollback (some e) ∈ ws := by
  cases h with
  | single pool sql params failure => simp at hb
  | refused pool e => simp at hb
  | committed ho => simp at hc
  | uncommitted e failure ho =>
    cases failure with
    | none => simp at hr
    | some r => exact ⟨r, by simp⟩
  | rolledBack failure ho =>
    cases failure with
    | none => simp at hr
    | some r => exact ⟨r, by simp⟩

/-! ### Stages of a life -/

/-- How far the handle that is out has got. -/
inductive Stage where
  | taken
  | begun
  | failed
  | done

namespace Stage

/-- The stage after a call, or none when the handle goes back with it; other calls are refused. -/
@[simp] def next : Stage → HandleCall → Option (Option Stage)
  | taken, .execute _ _ _ => some (some done)
  | taken, .begin none => some (some begun)
  | taken, .begin (some _) => some (some done)
  | begun, .execute _ _ _ => some (some begun)
  | begun, .commit none => some (some done)
  | begun, .commit (some _) => some (some failed)
  | begun, .rollback _ => some (some done)
  | failed, .rollback _ => some (some done)
  | done, .release => some none
  | _, _ => none

theorem ne_acquire {st : Stage} {c : HandleCall} {o : Option Stage} (h : st.next c = some o)
    (pool : Nat) : c ≠ .acquire pool := by
  rintro rfl
  cases st <;> cases h

/-- The calls that led to a stage, or to the end. -/
def Word : Option Stage → List HandleCall → Prop
  | some taken, cs => ∃ pool, cs = [.acquire pool]
  | some begun, cs => Open cs
  | some failed, cs => ∃ os e, Open os ∧ cs = os ++ [.commit (some e)]
  | some done, cs => Finished (cs ++ [.release])
  | none, cs => Finished cs

/-- What a call at a stage makes of the calls before it. -/
theorem word_next {st : Stage} {c : HandleCall} {o : Option Stage} {cs : List HandleCall}
    (h : st.next c = some o) (hw : Word (some st) cs) : Word o (cs ++ [c]) := by
  cases st with
  | taken =>
    obtain ⟨pool, rfl⟩ := hw
    cases c with
    | execute sql params failure =>
      cases h
      exact .single pool sql params failure
    | begin failure =>
      cases failure with
      | none =>
        cases h
        exact .begun pool
      | some e =>
        cases h
        exact .refused pool e
    | _ => cases h
  | begun =>
    cases c with
    | execute sql params failure =>
      cases h
      exact .executed sql params failure hw
    | commit failure =>
      cases failure with
      | none =>
        cases h
        rw [Word, List.append_assoc]
        exact .committed hw
      | some e =>
        cases h
        exact ⟨cs, e, hw, rfl⟩
    | rollback failure =>
      cases h
      rw [Word, List.append_assoc]
      exact .rolledBack failure hw
    | _ => cases h
  | failed =>
    obtain ⟨os, e, ho, rfl⟩ := hw
    cases c with
    | rollback failure =>
      cases h
      rw [Word, List.append_assoc, List.append_assoc]
      exact .uncommitted e failure ho
    | _ => cases h
  | done =>
    cases c with
    | release =>
      cases h
      exact hw
    | _ => cases h

theorem word_acquire_mem {st : Stage} {cs : List HandleCall} (h : Word (some st) cs) :
    ∃ pool, .acquire pool ∈ cs := by
  cases st with
  | taken =>
    obtain ⟨pool, rfl⟩ := h
    exact ⟨pool, List.mem_singleton_self _⟩
  | begun => exact Open.acquire_mem h
  | failed =>
    obtain ⟨os, e, ho, rfl⟩ := h
    obtain ⟨pool, hp⟩ := ho.acquire_mem
    exact ⟨pool, List.mem_append_left _ hp⟩
  | done =>
    obtain ⟨pool, hp⟩ := Finished.acquire_mem h
    exact ⟨pool, by simpa using hp⟩

theorem word_release_notMem {st : Stage} {cs : List HandleCall} (h : Word (some st) cs) :
    .release ∉ cs := by
  cases st with
  | taken =>
    obtain ⟨pool, rfl⟩ := h
    simp
  | begun => exact Open.release_notMem h
  | failed =>
    obtain ⟨os, e, ho, rfl⟩ := h
    simp [ho.release_notMem]
  | done =>
    obtain ⟨cs', hcs, hn⟩ := Finished.release_last h
    rwa [List.append_cancel_right hcs]

end Stage

/-! ### The watch -/

/-- The calls on a handle, in their order. -/
def callsOn (k : Nat) (log : List DriverEvent) : List HandleCall :=
  log.filterMap fun
    | .on j c => if j = k then some c else none
    | _ => none

theorem callsOn_append (k : Nat) (l l' : List DriverEvent) :
    callsOn k (l ++ l') = callsOn k l ++ callsOn k l' :=
  List.filterMap_append

/-- A handle that was handed out and did not go back. -/
def Out (k : Nat) (log : List DriverEvent) : Prop :=
  (∃ pool, .acquire pool ∈ callsOn k log) ∧ .release ∉ callsOn k log

/-- How many handles were handed out, and the one that is out with its stage. -/
structure Watch where
  count : Nat := 0
  out : Option (Nat × Stage) := none

namespace Watch

/-- The watch after an entry of the record. While a handle is out only its own calls are allowed. -/
def next (x : Watch) : DriverEvent → Option Watch
  | .on k c =>
    match x.out, c with
    | none, .acquire _ => if k = x.count then some ⟨x.count + 1, some (k, .taken)⟩ else none
    | none, _ => none
    | some (j, st), c =>
      if k = j then (st.next c).map fun o => ⟨x.count, o.map (Prod.mk k)⟩ else none
  | _ =>
    match x.out with
    | none => some x
    | some _ => none

/-- The watch after a record. -/
def after (log : List DriverEvent) : Option Watch :=
  log.foldlM next {}

theorem after_append (l l' : List DriverEvent) :
    after (l ++ l') = (after l).bind fun x => l'.foldlM next x :=
  List.foldlM_append

/-- What the watch allows it has allowed so far. -/
theorem after_prefix {l l' : List DriverEvent} {x : Watch} (h : after (l ++ l') = some x) :
    ∃ y, after l = some y ∧ l'.foldlM next y = some x := by
  rwa [after_append, Option.bind_eq_some_iff] at h

@[simp] theorem next_acquire (n pool : Nat) :
    next ⟨n, none⟩ (.on n (.acquire pool)) = some ⟨n + 1, some (n, .taken)⟩ := by
  simp [next]

@[simp] theorem next_call (n k : Nat) (st : Stage) (c : HandleCall) :
    next ⟨n, some (k, st)⟩ (.on k c) = (st.next c).map fun o => ⟨n, o.map (Prod.mk k)⟩ := by
  simp [next]

@[simp] theorem next_openFailed (n : Nat) (e : DriverError) :
    next ⟨n, none⟩ (.openFailed e) = some ⟨n, none⟩ := rfl

@[simp] theorem next_opened (n pool : Nat) : next ⟨n, none⟩ (.opened pool) = some ⟨n, none⟩ := rfl

@[simp] theorem next_acquireFailed (n pool : Nat) (e : DriverError) :
    next ⟨n, none⟩ (.acquireFailed pool e) = some ⟨n, none⟩ := rfl

@[simp] theorem next_closed (n pool : Nat) (failure : Option DriverError) :
    next ⟨n, none⟩ (.closed pool failure) = some ⟨n, none⟩ := rfl

theorem next_of_out {x y : Watch} {k : Nat} {st : Stage} {e : DriverEvent}
    (hx : x.out = some (k, st)) (h : x.next e = some y) :
    ∃ c o, e = .on k c ∧ st.next c = some o ∧ y = ⟨x.count, o.map (Prod.mk k)⟩ := by
  cases e with
  | on j c =>
    simp only [next, hx, Option.ite_none_right_eq_some, Option.map_eq_some_iff] at h
    obtain ⟨rfl, o, ho, rfl⟩ := h
    exact ⟨c, o, rfl, ho, rfl⟩
  | opened pool | openFailed e | acquireFailed pool e | closed pool failure =>
    simp only [next, hx] at h
    cases h

end Watch

/-- What a watch knows of a record: the handle that is out has lived up to its stage, the others
that were handed out have lived one of the lives, and none was used that was not handed out. -/
structure Lives (log : List DriverEvent) (x : Watch) : Prop where
  count : x.count = log.countP DriverEvent.acquires
  lt : ∀ k st, x.out = some (k, st) → k < x.count
  unused : ∀ k, x.count ≤ k → callsOn k log = []
  out : ∀ k st, x.out = some (k, st) → Stage.Word (some st) (callsOn k log)
  back : ∀ k < x.count, (∀ st, x.out ≠ some (k, st)) → Finished (callsOn k log)

/-- An entry that is not about a handle. -/
theorem Lives.pool {log : List DriverEvent} {x : Watch} {e : DriverEvent} (h : Lives log x)
    (he : ∀ k, callsOn k [e] = []) (ha : e.acquires = false) : Lives (log ++ [e]) x := by
  have hc : ∀ k, callsOn k (log ++ [e]) = callsOn k log := by
    intro k
    rw [callsOn_append, he, List.append_nil]
  refine ⟨?_, h.lt, ?_, ?_, ?_⟩
  · rw [h.count, List.countP_append]
    simp [ha]
  · intro k hk
    rw [hc, h.unused k hk]
  · intro k st hx
    rw [hc]
    exact h.out k st hx
  · intro k hk hx
    rw [hc]
    exact h.back k hk hx

theorem callsOn_self (k : Nat) (c : HandleCall) : callsOn k [.on k c] = [c] := by
  simp [callsOn]

theorem callsOn_ne {j k : Nat} (h : j ≠ k) (c : HandleCall) : callsOn k [.on j c] = [] := by
  simp [callsOn, h]

/-- A handle is handed out. -/
theorem Lives.acquire {log : List DriverEvent} {n : Nat} (pool : Nat) (h : Lives log ⟨n, none⟩) :
    Lives (log ++ [.on n (.acquire pool)]) ⟨n + 1, some (n, .taken)⟩ := by
  refine ⟨?_, ?_, ?_, ?_, ?_⟩
  · rw [List.countP_append, ← h.count]
    rfl
  · rintro k st ⟨⟩
    exact Nat.lt_succ_self n
  · intro k hk
    rw [callsOn_append, callsOn_ne (Nat.ne_of_lt hk), h.unused k (Nat.le_of_succ_le hk)]
    rfl
  · rintro k st ⟨⟩
    rw [callsOn_append, callsOn_self, h.unused n (Nat.le_refl n)]
    exact ⟨pool, rfl⟩
  · intro k hk hx
    have hn : n ≠ k := by
      rintro rfl
      exact hx _ rfl
    rw [callsOn_append, callsOn_ne hn, List.append_nil]
    exact h.back k (Nat.lt_of_le_of_ne (Nat.le_of_lt_succ hk) hn.symm) (fun _ => nofun)

/-- The handle that is out goes on to its next stage, or back. -/
theorem Lives.call {log : List DriverEvent} {n k : Nat} {st : Stage} {c : HandleCall}
    {o : Option Stage} (h : Lives log ⟨n, some (k, st)⟩) (ho : st.next c = some o) :
    Lives (log ++ [.on k c]) ⟨n, o.map (Prod.mk k)⟩ := by
  have hk : k < n := h.lt k st rfl
  have hw : Stage.Word o (callsOn k (log ++ [.on k c])) := by
    rw [callsOn_append, callsOn_self]
    exact Stage.word_next ho (h.out k st rfl)
  have hc : ∀ j, k ≠ j → callsOn j (log ++ [.on k c]) = callsOn j log := by
    intro j hj
    rw [callsOn_append, callsOn_ne hj, List.append_nil]
  refine ⟨?_, ?_, ?_, ?_, ?_⟩
  · -- No stage goes on with a handle being handed out.
    have ha : DriverEvent.acquires (.on k c) = false := by
      cases c with
      | acquire pool => exact absurd rfl (Stage.ne_acquire ho pool)
      | _ => rfl
    rw [List.countP_append, ← h.count]
    simp [ha]
  · intro j st' hx
    cases o with
    | none => cases hx
    | some st'' =>
      cases hx
      exact hk
  · intro j hj
    have hj' : n ≤ j := hj
    rw [hc j (by omega)]
    exact h.unused j hj
  · intro j st' hx
    cases o with
    | none => cases hx
    | some st'' =>
      cases hx
      exact hw
  · intro j hj hx
    by_cases hjk : k = j
    · -- The handle itself has lived its life if no stage follows.
      subst hjk
      cases o with
      | none => exact hw
      | some st' => exact absurd rfl (hx st')
    · rw [hc j hjk]
      refine h.back j hj ?_
      rintro st' ⟨⟩
      exact hjk rfl

theorem Lives.next {log : List DriverEvent} {x y : Watch} {e : DriverEvent} (h : Lives log x)
    (he : x.next e = some y) : Lives (log ++ [e]) y := by
  obtain ⟨n, out⟩ := x
  cases e with
  | on k c =>
    cases out with
    | none =>
      cases c with
      | acquire pool =>
        simp only [Watch.next, Option.ite_none_right_eq_some, Option.some.injEq] at he
        obtain ⟨rfl, rfl⟩ := he
        exact h.acquire pool
      | _ => cases he
    | some a =>
      obtain ⟨c', o, hc, ho, rfl⟩ := Watch.next_of_out rfl he
      cases hc
      exact h.call ho
  | opened pool | openFailed e | acquireFailed pool e | closed pool failure =>
    cases out with
    | none =>
      cases he
      exact h.pool (fun _ => rfl) rfl
    | some a => cases he

/-- The watch knows of every record that it allows. -/
theorem lives_after {log : List DriverEvent} {x : Watch} (h : Watch.after log = some x) :
    Lives log x := by
  induction log using List.reverseRecOn generalizing x with
  | nil =>
    cases h
    -- Nothing was handed out yet, and nothing is out.
    refine ⟨rfl, fun _ _ => nofun, fun _ _ => rfl, fun _ _ => nofun, ?_⟩
    intro k hk
    exact absurd hk (Nat.not_lt_zero k)
  | append_singleton log e ih =>
    obtain ⟨y, hy, he⟩ := Watch.after_prefix h
    refine (ih hy).next (e := e) ?_
    simpa using he

theorem Lives.out_iff {log : List DriverEvent} {x : Watch} (h : Lives log x) (k : Nat) :
    Out k log ↔ ∃ st, x.out = some (k, st) := by
  constructor
  · rintro ⟨⟨pool, hp⟩, hr⟩
    by_contra hx
    rw [not_exists] at hx
    rcases Nat.lt_or_ge k x.count with hk | hk
    · obtain ⟨cs, hcs, -⟩ := (h.back k hk hx).release_last
      exact hr (by simp [hcs])
    · simp [h.unused k hk] at hp
  · rintro ⟨st, hx⟩
    have hw := h.out k st hx
    exact ⟨Stage.word_acquire_mem hw, Stage.word_release_notMem hw⟩

/-! ### The protocol -/

/-- A record keeps to the protocol of handles, with `pinned` the handle of the transaction. -/
structure Protocol (log : List DriverEvent) (pinned : Option Nat) : Prop where
  /-- A handle is in an open transaction, or it has gone back after one of the lives. -/
  open_iff : ∀ k, Open (callsOn k log) ↔ pinned = some k
  finished_iff : ∀ k < log.countP DriverEvent.acquires,
    (Finished (callsOn k log) ↔ pinned ≠ some k)
  unused : ∀ k, log.countP DriverEvent.acquires ≤ k → callsOn k log = []
  /-- A handle that is not kept went back once, and nothing was called on it afterwards. -/
  released_last : ∀ k < log.countP DriverEvent.acquires, pinned ≠ some k →
    ∃ cs, callsOn k log = cs ++ [.release] ∧ .release ∉ cs
  /-- After a begin, a handle goes back without a commit or a rollback only if a rollback failed. -/
  rollback_failed : ∀ k, .begin none ∈ callsOn k log → .release ∈ callsOn k log →
    .commit none ∉ callsOn k log → .rollback none ∉ callsOn k log →
    ∃ e, .rollback (some e) ∈ callsOn k log
  /-- At no time are two handles out. -/
  one_out : ∀ l l' j k, log = l ++ l' → Out j l → Out k l → j = k
  /-- While a handle is out all calls are on it. -/
  kept_to : ∀ l e l' k, log = l ++ e :: l' → Out k l →
    ∃ c, e = .on k c ∧ ∀ pool, c ≠ .acquire pool

/-- The handle of a transaction, as the watch knows it. -/
def begun (pinned : Option Nat) : Option (Nat × Stage) :=
  pinned.map fun k => (k, .begun)

theorem begun_iff (pinned : Option Nat) (k : Nat) :
    (∃ st, begun pinned = some (k, st)) ↔ pinned = some k := by
  cases pinned with
  | none => simp [begun]
  | some j => simp [begun]

/-- What the watch allows keeps to the protocol. -/
theorem protocol_of_after {log : List DriverEvent} {n : Nat} {pinned : Option Nat}
    (h : Watch.after log = some ⟨n, begun pinned⟩) : Protocol log pinned := by
  have hl := lives_after h
  have hn : n = log.countP DriverEvent.acquires := hl.count
  have hout : ∀ k, Out k log ↔ pinned = some k := fun k =>
    (hl.out_iff k).trans (begun_iff pinned k)
  have hopen : ∀ k, pinned = some k → Open (callsOn k log) := by
    rintro k rfl
    exact hl.out k .begun rfl
  have hback : ∀ k < n, pinned ≠ some k → Finished (callsOn k log) := by
    intro k hk hp
    refine hl.back k hk ?_
    intro st hx
    exact hp ((begun_iff pinned k).1 ⟨st, hx⟩)
  subst hn
  refine ⟨?_, ?_, hl.unused, ?_, ?_, ?_, ?_⟩
  · intro k
    refine ⟨?_, hopen k⟩
    intro ho
    exact (hout k).1 ⟨ho.acquire_mem, ho.release_notMem⟩
  · intro k hk
    refine ⟨?_, hback k hk⟩
    intro hf hp
    exact hf.not_open (hopen k hp)
  · intro k hk hp
    exact (hback k hk hp).release_last
  · intro k hb hr hc hrb
    have hk : k < log.countP DriverEvent.acquires := by
      by_contra hk
      simp [hl.unused k (Nat.le_of_not_lt hk)] at hb
    have hp : pinned ≠ some k := by
      intro hp
      exact (hopen k hp).release_notMem hr
    exact (hback k hk hp).rollback_failed hb hc hrb
  · rintro l l' j k rfl hj hk
    obtain ⟨y, hy, -⟩ := Watch.after_prefix h
    obtain ⟨st, hst⟩ := ((lives_after hy).out_iff j).1 hj
    obtain ⟨st', hst'⟩ := ((lives_after hy).out_iff k).1 hk
    rw [hst] at hst'
    cases hst'
    rfl
  · rintro l e l' k rfl hk
    obtain ⟨y, hy, he⟩ := Watch.after_prefix h
    obtain ⟨st, hst⟩ := ((lives_after hy).out_iff k).1 hk
    rw [List.foldlM_cons] at he
    obtain ⟨z, hz, -⟩ := Option.bind_eq_some_iff.1 he
    obtain ⟨c, o, rfl, ho, -⟩ := Watch.next_of_out hst hz
    exact ⟨c, rfl, Stage.ne_acquire ho⟩

/-! ### Managers -/

/-- The watch allows the calls of a move, on a fresh handle where no transaction has one. -/
theorem watch_move (name : String) (fails : Failures) (p : Phase)
    (r : Request) (pool n k : Nat) (hk : p.transacting = false → k = n) :
    ∃ n', ((p.move name fails r).calls.map (·.event pool k fails)).foldlM Watch.next
        ⟨n, if p.transacting then some (k, .begun) else none⟩ =
      some ⟨n', if (p.move name fails r).next.transacting then some (k, .begun) else none⟩ := by
  cases p with
  | disconnected =>
    cases r with
    | connect =>
      refine ⟨n, ?_⟩
      rcases ho : fails.openPool with _ | e <;> simp [Phase.move, ho]
    | _ => exact ⟨n, rfl⟩
  | idle owned =>
    -- A handle that is taken now gets the next number.
    obtain rfl := hk rfl
    cases r with
    | disconnect => exact ⟨k, by cases owned <;> rfl⟩
    | query sql params =>
      rcases ha : fails.acquire with _ | e
      · exact ⟨k + 1, by simp [Phase.move, ha]⟩
      · exact ⟨k, by simp [Phase.move, ha]⟩
    | begin =>
      rcases ha : fails.acquire with _ | e
      · refine ⟨k + 1, ?_⟩
        rcases hb : fails.begin with _ | e <;> simp [Phase.move, ha, hb]
      · exact ⟨k, by simp [Phase.move, ha]⟩
    | _ => exact ⟨k, rfl⟩
  | inTransaction owned =>
    refine ⟨n, ?_⟩
    cases r with
    | disconnect => cases owned <;> simp [Phase.move, Phase.letGo]
    | commit => rcases hc : fails.commit with _ | e <;> simp [Phase.move, hc]
    | query sql params => simp [Phase.move]
    | rollback => simp [Phase.move]
    | _ => rfl

end Handle

namespace Pooled

open Handle

variable {σ P H : Type} (d : PoolDriver σ P H)

/-- The handle of the transaction, by its number. -/
def pinned (s : RecordedWorld σ P H) : Option Nat :=
  s.1.transaction.map Prod.fst

/-- The watch allowed all calls so far, and knows the handle of the transaction. -/
def Watched (s : RecordedWorld σ P H) : Prop :=
  Watch.after s.2.log = some ⟨s.2.nextHandle, begun (pinned s)⟩

theorem begun_pinned {s : RecordedWorld σ P H} (h : s.1.Sound) :
    begun (pinned s) =
      if s.1.phase.transacting then some (handleNumber s, .begun) else none := by
  obtain ⟨⟨_ | p, owns, _ | x⟩, w⟩ := s
  · rfl
  · exact absurd (h rfl) Bool.false_ne_true
  · rfl
  · rfl

theorem handleNumber_of_idle {s : RecordedWorld σ P H} (h : s.1.Sound)
    (ht : s.1.phase.transacting = false) : handleNumber s = s.2.nextHandle := by
  obtain ⟨⟨_ | p, owns, _ | x⟩, w⟩ := s
  · rfl
  · exact absurd (h rfl) Bool.false_ne_true
  · rfl
  · cases ht

theorem Follows.begun {name : String} {fails : Failures} {r : Request}
    {s : RecordedWorld σ P H} {o : Outcome (RecordedWorld σ P H) (Option QueryResult)}
    (h : Follows name fails r s o) :
    begun (pinned o.next) = if (s.1.phase.move name fails r).next.transacting then
      some (handleNumber s, .begun) else none := by
  rw [pinned, h.handle]
  split <;> rfl

theorem watched_perform (r : Request) {s : RecordedWorld σ P H} (hs : s.1.Sound)
    (hw : Watched s) : Watched ((manager d.recorded).perform r s).next := by
  obtain ⟨fails, hf⟩ := perform_follows d r s hs
  obtain ⟨n, hn⟩ := watch_move d.name fails s.1.phase r (poolNumber s) s.2.nextHandle
    (handleNumber s) (handleNumber_of_idle hs)
  have ha : Watch.after ((manager d.recorded).perform r s).next.2.log =
      some ⟨n, begun (pinned ((manager d.recorded).perform r s).next)⟩ := by
    rw [hf.log, Watch.after_append, hw, begun_pinned hs, hf.begun]
    exact hn
  have hcount : n = ((manager d.recorded).perform r s).next.2.nextHandle := (lives_after ha).count
  rw [Watched, ← hcount]
  exact ha

theorem watched_run (shared : Option P) (w : σ) (rs : List Request) :
    Watched ((manager d.recorded).run rs (recorded shared w)) := by
  have h := (manager d.recorded).run_induction (P := fun s => s.1.Sound ∧ Watched s) ?_ rs
    (m := recorded shared w) ?_
  · exact h.2
  · rintro r s ⟨hs, hw⟩
    obtain ⟨fails, hf⟩ := perform_follows d r s hs
    exact ⟨hf.sound, watched_perform d r hs hw⟩
  · refine ⟨sound_run d shared w [], ?_⟩
    cases shared <;> rfl

/-- A statement in a transaction is one call, on the handle of the transaction. -/
theorem query_pinned {s : RecordedWorld σ P H} {k : Nat} (hs : s.1.Sound) (hk : pinned s = some k)
    (sql : String) (params : List Value) :
    ∃ failure, ((manager d.recorded).perform (.query sql params) s).next.2.log =
      s.2.log ++ [.on k (.execute sql params failure)] := by
  obtain ⟨fails, hf⟩ := perform_follows d (.query sql params) s hs
  refine ⟨fails.execute, ?_⟩
  obtain ⟨⟨_ | p, owns, _ | x⟩, w⟩ := s
  · cases hk
  · exact absurd (hs rfl) Bool.false_ne_true
  · cases hk
  · cases hk
    exact hf.log

/-- Whatever the driver answers, the record of every run keeps to the protocol of handles, with the
handle of the transaction as the one that is out. A statement in a transaction runs on that handle,
without another call. -/
theorem run_keeps_protocol (shared : Option P) (w : σ) (rs : List Request) :
    let s := (manager d.recorded).run rs (recorded shared w)
    forget s = (manager d).run rs (fresh shared, w) ∧
      (s.1.inTransaction ↔ (pinned s).isSome) ∧
      Protocol s.2.log (pinned s) ∧
      ∀ k, pinned s = some k → ∀ sql params, ∃ failure,
        ((manager d.recorded).perform (.query sql params) s).next.2.log =
          s.2.log ++ [.on k (.execute sql params failure)] := by
  intro s
  refine ⟨forget_run_recorded d shared w rs, ?_, ?_, ?_⟩
  · rw [pinned, Option.isSome_map]
    rfl
  · exact protocol_of_after (watched_run d shared w rs)
  · intro k hk sql params
    exact query_pinned d (sound_run d shared w rs) hk sql params

end Pooled

end FluentSql
