import FluentSql.Connection.Mock
import FluentSql.Proofs.Connection.Fleet
import Mathlib.Data.List.Induction

/-! How managers share a pool. The record of their calls says which handles are out and who has
them, and which pools were opened and closed. A manager closes only what it opened, once, and takes
no handle from it afterwards. Where the driver never hands out a handle that is still out, no two
managers have the same one, and the handles that are out are those that the managers have,
`run_orderly`. -/

namespace FluentSql

variable {ι σ P H : Type}

/-- What a call does to the handles that are out. -/
inductive Movement (H : Type) where
  | out (h : H)
  | back (h : H)
  | none

namespace Entry

def movement (e : Entry ι P H) : Movement H :=
  match e.asked, e.reply with
  | .acquire _, .ok h => .out h
  | .release h, _ => .back h
  | _, _ => .none

/-- The pool that was opened, if one was. -/
def opened? (e : Entry ι P H) : Option P :=
  match e.asked, e.reply with
  | .openPool, .ok pool => some pool
  | _, _ => none

end Entry

/-! ### Handles that are out -/

theorem handle_after (x : Hold P H) (e : Entry ι P H) :
    (x.after e.asked e.reply).handle = match e.movement with
      | .out h => some h
      | .back _ => none
      | .none => x.handle := by
  obtain ⟨i, r, asked, reply⟩ := e
  cases asked with
  | openPool | acquire pool => cases reply <;> rfl
  | _ => rfl

/-- A manager takes a handle with none in hand, and gives back the one that it has. -/
theorem handle_of_allows {shared : P} {x : Hold P H} {e : Entry ι P H}
    (h : x.Allows shared e.request e.asked) :
    match e.movement with
    | .out _ => x.handle = none
    | .back k => x.handle = some k
    | .none => True := by
  obtain ⟨i, r, asked, reply⟩ := e
  cases asked with
  | acquire pool =>
    cases reply with
    | error e => trivial
    | ok k => exact h.2
  | release k => exact h
  | openPool => cases reply <;> trivial
  | _ => trivial

/-! ### Pools -/

theorem own_after {x : Hold P H} {e : Entry ι P H} {pool : P}
    (h : (x.after e.asked e.reply).lease = .own pool) :
    e.opened? = some pool ∨ x.lease = .own pool := by
  obtain ⟨i, r, asked, reply⟩ := e
  cases asked with
  | openPool =>
    cases reply with
    | error e => exact .inr h
    | ok p =>
      cases h
      exact .inl rfl
  | acquire p => cases reply <;> exact .inr h
  | close p => cases h
  | _ => exact .inr h

/-- A manager's own pool is one that it opened. -/
theorem opened_of_own [DecidableEq ι] {i : ι} {l : List (Entry ι P H)} {pool : P}
    (h : (hold i l).lease = .own pool) : ∃ e ∈ l, e.author = i ∧ e.opened? = some pool := by
  induction l using List.reverseRecOn with
  | nil => cases h
  | append_singleton l e ih =>
    by_cases hi : e.author = i
    · subst hi
      rw [hold_author] at h
      rcases own_after h with ho | ho
      · exact ⟨e, by simp, rfl, ho⟩
      · obtain ⟨x, hx, hxi⟩ := ih ho
        exact ⟨x, List.mem_append_left _ hx, hxi⟩
    · rw [hold_other l hi] at h
      obtain ⟨x, hx, hxi⟩ := ih h
      exact ⟨x, List.mem_append_left _ hx, hxi⟩

theorem lease_after_close (x : Hold P H) {e : Entry ι P H} {pool : P} (h : e.asked = .close pool) :
    (x.after e.asked e.reply).lease = .closed := by
  obtain ⟨i, r, asked, reply⟩ := e
  cases h
  rfl

theorem lease_after_of_closed {x : Hold P H} (hx : x.lease = .closed) {e : Entry ι P H}
    (h : e.opened? = none) : (x.after e.asked e.reply).lease = .closed := by
  obtain ⟨i, r, asked, reply⟩ := e
  cases asked with
  | openPool =>
    cases reply with
    | error e => exact hx
    | ok pool => cases h
  | acquire pool => cases reply <;> exact hx
  | close pool => rfl
  | _ => exact hx

/-- A manager that has closed its pool has none until it opens another. -/
theorem lease_of_closed [DecidableEq ι] {i : ι} {l l' : List (Entry ι P H)}
    (hl : (hold i l).lease = .closed) (hn : ∀ e ∈ l', e.author = i → e.opened? = none) :
    (hold i (l ++ l')).lease = .closed := by
  induction l' using List.reverseRecOn with
  | nil => simpa using hl
  | append_singleton l' e ih =>
    have hc := ih fun x hx => hn x (List.mem_append_left _ hx)
    rw [← List.append_assoc]
    by_cases hi : e.author = i
    · subst hi
      rw [hold_author]
      exact lease_after_of_closed hc (hn e (by simp) rfl)
    · rw [hold_other _ hi]
      exact hc

section Handles

variable [DecidableEq ι] [DecidableEq H]

/-- Who has a handle behind these calls: the one to whom it was handed out last, until it goes
back. -/
def holder (h : H) (log : List (Entry ι P H)) : Option ι :=
  log.foldl (fun x e => match e.movement with
    | .out k => if k = h then some e.author else x
    | .back k => if k = h then none else x
    | .none => x) none

omit [DecidableEq ι] in
theorem holder_snoc (h : H) (l : List (Entry ι P H)) (e : Entry ι P H) :
    holder h (l ++ [e]) = match e.movement with
      | .out k => if k = h then some e.author else holder h l
      | .back k => if k = h then none else holder h l
      | .none => holder h l := by
  simp [holder]

/-- No handle was handed out while it was out. -/
def Exclusive (log : List (Entry ι P H)) : Prop :=
  ∀ l e h, l ++ [e] <+: log → e.movement = .out h → holder h l = none

omit [DecidableEq ι] in
theorem Exclusive.mono {l log : List (Entry ι P H)} (h : Exclusive log) (hl : l <+: log) :
    Exclusive l :=
  fun l' e k he => h l' e k (he.trans hl)

/-- Whoever has a handle, has it by its own calls. -/
theorem holder_iff {shared : P} {log : List (Entry ι P H)} (ha : Agrees shared log)
    (hu : Exclusive log) (h : H) (i : ι) :
    holder h log = some i ↔ (hold i log).handle = some h := by
  induction log using List.reverseRecOn generalizing h i with
  | nil => simp [holder, hold]
  | append_singleton l e ih =>
    have hp : l <+: l ++ [e] := List.prefix_append l [e]
    replace ih := ih (ha.mono hp) (hu.mono hp)
    have hallow := handle_of_allows (ha l e (List.prefix_refl _))
    rw [holder_snoc]
    by_cases hi : e.author = i
    · subst hi
      rw [hold_author, handle_after]
      cases hm : e.movement with
      | out k =>
        rw [hm] at hallow
        by_cases hk : k = h <;> simp [hk, ih, hallow]
      | back k =>
        rw [hm] at hallow
        by_cases hk : k = h <;> simp [hk, ih, hallow]
      | none => exact ih h _
    · rw [hold_other l hi, ← ih]
      cases hm : e.movement with
      | out k =>
        -- It was not out, so that no one had it.
        have hf : holder k l = none := hu l e k (List.prefix_refl _) hm
        by_cases hk : k = h
        · simp [← hk, hf, hi]
        · simp [hk]
      | back k =>
        -- Its author had it, and no one else.
        rw [hm] at hallow
        have hs : holder k l = some e.author := (ih k _).2 hallow
        by_cases hk : k = h
        · simp [← hk, hs, hi]
        · simp [hk]
      | none => rfl

omit [DecidableEq ι] in
theorem holder_of_notMem {h : H} {l : List (Entry ι P H)} (hl : ∀ e ∈ l, e.movement ≠ .out h) :
    holder h l = none := by
  induction l using List.reverseRecOn with
  | nil => rfl
  | append_singleton l e ih =>
    have hn := ih fun x hx => hl x (List.mem_append_left _ hx)
    have he := hl e (by simp)
    rw [holder_snoc, hn]
    cases hm : e.movement with
    | out k =>
      have hk : k ≠ h := by
        rintro rfl
        exact he hm
      simp [hk]
    | back k => simp
    | none => rfl

/-- The handles that were handed out, in order. -/
def handedOut (log : List (Entry ι P H)) : List H :=
  log.filterMap fun e => match e.movement with
    | .out h => some h
    | _ => none

omit [DecidableEq ι] in
/-- A driver that hands out new handles only, hands out none that is out. -/
theorem exclusive_of_nodup {log : List (Entry ι P H)} (h : (handedOut log).Nodup) :
    Exclusive log := by
  rintro l e k ⟨l', rfl⟩ hm
  refine holder_of_notMem ?_
  intro x hx hxm
  have hk : k ∈ handedOut l := List.mem_filterMap.2 ⟨x, hx, by rw [hxm]⟩
  have he : k ∈ handedOut [e] := List.mem_filterMap.2 ⟨e, by simp, by rw [hm]⟩
  rw [handedOut, List.filterMap_append, List.filterMap_append] at h
  exact (List.nodup_append.1 (List.nodup_append.1 h).1).2.2 k hk k he rfl

/-! ### Order in a fleet -/

/-- The order that managers of one pool keep among one another. -/
structure Orderly (shared : P) (f : Fleet ι σ P H) : Prop where
  /-- A pool is opened in a connect, by a manager that has none of its own. -/
  opens : ∀ l e, l ++ [e] <+: f.log → e.asked = .openPool →
    e.request = .connect ∧ (hold e.author l).lease.isOwn = false
  /-- A pool is closed in a disconnect, by the manager that opened it last of all and has no handle
  any more. -/
  closes : ∀ l e pool, l ++ [e] <+: f.log → e.asked = .close pool →
    e.request = .disconnect ∧ (hold e.author l).lease = .own pool ∧
      (∃ x ∈ l, x.author = e.author ∧ x.opened? = some pool) ∧ ∀ h, holder h l ≠ some e.author
  /-- Behind a close its manager closes nothing and takes no handle before it opens a pool again. -/
  closed_for_good : ∀ l e l' e' pool pool', l ++ e :: l' ++ [e'] <+: f.log →
    e.asked = .close pool → e'.author = e.author →
    e'.asked = .close pool' ∨ e'.asked = .acquire pool' →
    ∃ x ∈ l', x.author = e.author ∧ x.opened?.isSome
  /-- A handle is taken from a manager's own pool, or from the shared one by one that has opened
  none. -/
  acquires : ∀ l e pool, l ++ [e] <+: f.log → e.asked = .acquire pool →
    (hold e.author l).lease.Uses shared pool
  /-- A handle is used and given back by the manager that has it. -/
  uses : ∀ l e h, l ++ [e] <+: f.log → e.asked.handle? = some h → holder h l = some e.author
  /-- A manager at rest has the handle of its transaction, and no other. -/
  pinned : ∀ i m, f.agent i = .resting m → ∀ h, holder h f.log = some i ↔ m.transaction = some h
  /-- If all managers rest, the handles that are out are those of their transactions. -/
  out_iff : (∀ i, ∃ m, f.agent i = .resting m) → ∀ h, (holder h f.log).isSome ↔
    ∃ i m, f.agent i = .resting m ∧ m.transaction = some h
  /-- No two managers have a transaction on the same handle. -/
  apart : ∀ i j m n h, f.agent i = .resting m → f.agent j = .resting n →
    m.transaction = some h → n.transaction = some h → i = j

section Kept

variable {shared : P} {f : Fleet ι σ P H} (hf : f.Kept shared)
include hf

/-- What a manager had when it made a call. -/
theorem Fleet.Kept.holder_iff (hu : Exclusive f.log) {l : List (Entry ι P H)} {e : Entry ι P H}
    (he : l ++ [e] <+: f.log) (h : H) (i : ι) :
    holder h l = some i ↔ (hold i l).handle = some h := by
  have hl : l <+: f.log := (List.prefix_append l [e]).trans he
  exact FluentSql.holder_iff (hf.calls.mono hl) (hu.mono hl) h i

theorem Fleet.Kept.pinned (hu : Exclusive f.log) {i : ι} {m : Pooled P H}
    (hi : f.agent i = .resting m) (h : H) : holder h f.log = some i ↔ m.transaction = some h := by
  have hm := hf.agents i
  rw [hi] at hm
  rw [FluentSql.holder_iff hf.calls hu, Hold.Fits.handle hm]

omit [DecidableEq H] in
theorem Fleet.Kept.closed_for_good {l l' : List (Entry ι P H)} {e e' : Entry ι P H} {pool pool' : P}
    (he : l ++ e :: l' ++ [e'] <+: f.log) (ha : e.asked = .close pool)
    (hi : e'.author = e.author) (ha' : e'.asked = .close pool' ∨ e'.asked = .acquire pool') :
    ∃ x ∈ l', x.author = e.author ∧ x.opened?.isSome := by
  by_contra hx
  -- Its manager would still have no pool.
  have hclosed : (hold e.author (l ++ [e] ++ l')).lease = .closed := by
    refine lease_of_closed ?_ ?_
    · rw [hold_author]
      exact lease_after_close _ ha
    · intro x hx' hxi
      by_contra ho
      exact hx ⟨x, hx', hxi, Option.isSome_iff_ne_none.2 ho⟩
  have h := hf.calls (l ++ e :: l') e' he
  rw [hi, List.append_cons] at h
  rcases ha' with ha' | ha'
  · rw [ha'] at h
    rw [h.2.1] at hclosed
    cases hclosed
  · rw [ha'] at h
    rcases h.1 with ho | ⟨ho, -⟩
    · rw [ho] at hclosed
      cases hclosed
    · rw [ho] at hclosed
      cases hclosed

theorem Fleet.Kept.orderly (hu : Exclusive f.log) : Orderly shared f where
  opens l e he ha := by
    have h := hf.calls l e he
    rw [ha] at h
    exact ⟨h.1, h.2.1⟩
  closes l e pool he ha := by
    have h := hf.calls l e he
    rw [ha] at h
    refine ⟨h.1, h.2.1, opened_of_own h.2.1, ?_⟩
    intro k hk
    rw [hf.holder_iff hu he, h.2.2] at hk
    cases hk
  closed_for_good _ _ _ _ _ _ he ha hi ha' := hf.closed_for_good he ha hi ha'
  acquires l e pool he ha := by
    have h := hf.calls l e he
    rw [ha] at h
    exact h.1
  uses l e h he ha := by
    have hc := hf.calls l e he
    rw [hf.holder_iff hu he]
    cases hasked : e.asked <;> rw [hasked] at ha hc <;> cases ha <;> exact hc
  pinned _ _ hi := hf.pinned hu hi
  out_iff hrest h := by
    rw [Option.isSome_iff_exists]
    constructor
    · rintro ⟨i, hi⟩
      obtain ⟨m, hm⟩ := hrest i
      exact ⟨i, m, hm, (hf.pinned hu hm h).1 hi⟩
    · rintro ⟨i, m, hm, ht⟩
      exact ⟨i, (hf.pinned hu hm h).2 ht⟩
  apart i j m n h hi hj hm hn := by
    have hi' := (hf.pinned hu hi h).2 hm
    have hj' := (hf.pinned hu hj h).2 hn
    rw [hi'] at hj'
    exact Option.some.inj hj'

end Kept

/-- However the operations of managers of one pool interleave, call by call, and whatever the driver
answers, the managers keep this order, if only no handle is handed out while it is out. -/
theorem run_orderly (d : PoolDriver σ P H) (shared : P) (w : σ) (turns : List (Turn ι)) :
    (∀ r m v, (Pooled.manager d).perform r (m, v) = (Script.perform d.name m r).outcome d v) ∧
      let f := (Fleet.ofPool shared w).run d turns
      Exclusive f.log → Orderly shared f :=
  ⟨fun r m v => Script.perform_eq_outcome d m v r, (Fleet.kept_run d w turns).orderly⟩

/-- One manager begins a transaction while another runs a statement. The first one goes on in its
transaction while the second one detaches, opens a pool of its own and closes it. -/
def mockTurns : List (Turn Bool) :=
  [.start false .begin, .go false, .start true (.query "SELECT 1" []), .go true, .go false,
    .go true, .go true, .go false, .go true, .start true .disconnect, .go true,
    .start true .connect, .go true, .go true, .start false (.query "SELECT 2" []),
    .start true .disconnect, .go false, .go true, .go true, .go false]

theorem run_orderly_mock :
    let f := (Fleet.ofPool () ({} : Mock)).run (Mock.driver "mock" .question) mockTurns
    (∃ m, f.agent false = .resting m ∧ m.transaction = some 1) ∧
      (∃ e ∈ f.log, e.author = true ∧ e.asked = .close ()) ∧ Exclusive f.log ∧ Orderly () f := by
  intro f
  have hu : Exclusive f.log := exclusive_of_nodup (by decide)
  have hc : ∃ e ∈ f.log, e.author = true ∧ e.asked = .close () :=
    ⟨f.log.getLast (by decide), List.getLast_mem _, rfl, rfl⟩
  exact ⟨⟨_, rfl, rfl⟩, hc, hu, (run_orderly (Mock.driver "mock" .question) () {} mockTurns).2 hu⟩

end Handles

end FluentSql
