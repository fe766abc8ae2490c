import FluentSql.Proofs.Connection.Script

/-! What a manager has by its own calls: a pool, the shared one or one that it opened, and a handle.
Whatever the driver answers, each call of an operation agrees with what the manager has then: it
takes handles from its pool only and with none in hand, uses only the handle that it has, and closes
only a pool that it opened, `keeps_perform`. -/

namespace FluentSql

variable {P H α β : Type}

/-- Whose pool a manager has, by its calls so far. -/
inductive Lease (P : Type) where
  /-- The shared one, or none if that was let go: the driver is not told. -/
  | shared
  | own (pool : P)
  /-- None, since its own was closed. -/
  | closed

namespace Lease

def isOwn : Lease P → Bool
  | own _ => true
  | _ => false

/-- The pool is the one that the manager has, unless that was let go. -/
def Uses (shared : P) (x : Lease P) (pool : P) : Prop :=
  x = own pool ∨ x = .shared ∧ pool = shared

end Lease

/-- What a manager has, by its calls so far. -/
structure Hold (P H : Type) where
  lease : Lease P := .shared
  handle : Option H := none

namespace Hold

/-- What a manager has behind another call. -/
def after (x : Hold P H) : (a : DriverAsk P H) → a.Reply → Hold P H
  | .openPool, .ok pool => { x with lease := .own pool }
  | .acquire _, .ok h => { x with handle := some h }
  | .release _, _ => { x with handle := none }
  | .close _, _ => { x with lease := .closed }
  | _, _ => x

/-- The calls that agree with what a manager has, in an operation. -/
def Allows (shared : P) (r : Request) (x : Hold P H) : DriverAsk P H → Prop
  | .openPool => r = .connect ∧ x.lease.isOwn = false ∧ x.handle = none
  | .acquire pool => x.lease.Uses shared pool ∧ x.handle = none
  | .execute h _ _ | .begin h | .commit h | .rollback h | .release h => x.handle = some h
  | .close pool => r = .disconnect ∧ x.lease = .own pool ∧ x.handle = none

/-- A manager between operations, and what it has. -/
inductive Fits (shared : P) : Hold P H → Pooled P H → Prop where
  | connected {lease : Lease P} {pool : P} (x : Option H) : lease.Uses shared pool →
      Fits shared ⟨lease, x⟩ ⟨some pool, lease.isOwn, x⟩
  | unconnected {lease : Lease P} (owns : Bool) : lease.isOwn = false →
      Fits shared ⟨lease, none⟩ ⟨none, owns, none⟩

theorem Fits.handle {shared : P} {x : Hold P H} {m : Pooled P H} (h : Fits shared x m) :
    x.handle = m.transaction := by
  cases h <;> rfl

end Hold

namespace Script

open Hold

/-- Whatever the answers, each call agrees with what the manager has then, and the end is as
required. -/
def Keeps (shared : P) (r : Request) (Q : Hold P H → β → Prop) : Hold P H → Script P H β → Prop
  | x, done b => Q x b
  | x, ask a next => x.Allows shared r a ∧ ∀ reply, (next reply).Keeps shared r Q (x.after a reply)

variable {shared : P} {r : Request} {x : Hold P H} {m : Pooled P H} (name : String)

theorem Keeps.andThen {Q : Hold P H → α → Prop} {R : Hold P H → β → Prop} {s : Script P H α}
    {f : α → Script P H β} (hs : s.Keeps shared r Q x)
    (hf : ∀ y a, Q y a → (f a).Keeps shared r R y) : (s.andThen f).Keeps shared r R x := by
  induction s generalizing x with
  | done a => exact hf x a hs
  | ask a next ih => exact ⟨hs.1, fun reply => ih reply (hs.2 reply)⟩

/-- The operation leaves a manager that fits what it has. -/
def Rests (shared : P) (x : Hold P H) (o : Outcome (Pooled P H) α) : Prop :=
  Fits shared x o.next

theorem Keeps.map {f : Outcome (Pooled P H) α → Outcome (Pooled P H) β}
    {s : Script P H (Outcome (Pooled P H) α)} (hs : s.Keeps shared r (Rests shared) x)
    (hf : ∀ o, (f o).next = o.next) : (s.map f).Keeps shared r (Rests shared) x := by
  refine hs.andThen ?_
  intro y o ho
  show Fits shared y (f o).next
  rw [hf]
  exact ho

/-! ### Operations -/

theorem keeps_connect (h : Fits shared x m) :
    (connect name m).Keeps shared .connect (Rests shared) x := by
  cases h with
  | connected x hu => exact .connected x hu
  | unconnected owns ho =>
    refine ⟨⟨rfl, ho, rfl⟩, ?_⟩
    rintro (e | pool)
    · exact .unconnected owns ho
    · exact .connected none (.inl rfl)

theorem keeps_abandon (h : Fits shared x m) :
    (abandon name m).Keeps shared r (fun y s => Fits shared y s.1 ∧ y.handle = none) x := by
  cases h with
  | connected x hu =>
    cases x with
    | none => exact ⟨.connected none hu, rfl⟩
    | some h => exact ⟨rfl, fun _ => ⟨rfl, fun _ => ⟨.connected none hu, rfl⟩⟩⟩
  | unconnected owns ho => exact ⟨.unconnected owns ho, rfl⟩

theorem keeps_leave (h : Fits shared x m) (hx : x.handle = none) :
    (leave name m).Keeps shared .disconnect (Rests shared) x := by
  cases h with
  | connected x hu =>
    cases hx
    rcases hu with rfl | ⟨rfl, rfl⟩
    · refine ⟨⟨rfl, rfl, rfl⟩, ?_⟩
      rintro (e | u)
      · exact .unconnected true rfl
      · exact .unconnected true rfl
    · exact .unconnected false rfl
  | unconnected owns ho => exact .unconnected owns ho

theorem keeps_disconnect (h : Fits shared x m) :
    (disconnect name m).Keeps shared .disconnect (Rests shared) x := by
  refine (keeps_abandon name h).andThen ?_
  rintro y ⟨m, events⟩ ⟨hy, hn⟩
  exact (keeps_leave name hy hn).map fun _ => rfl

/-- A statement leaves a manager what it has. -/
theorem keeps_statement (h : Fits shared x m) {pool : P} (hp : m.pool = some pool) (sql : String)
    (params : List Value) :
    (statement m pool sql params).Keeps shared r (fun y _ => y = x) x := by
  cases h with
  | connected x hu =>
    cases hp
    cases x with
    | some h => exact ⟨rfl, fun _ => rfl⟩
    | none =>
      refine ⟨⟨hu, rfl⟩, ?_⟩
      rintro (e | h)
      · rfl
      · exact ⟨rfl, fun _ => ⟨rfl, fun _ => rfl⟩⟩
  | unconnected owns ho => cases hp

theorem keeps_query (h : Fits shared x m) (sql : String) (params : List Value) :
    (query name m sql params).Keeps shared r (Rests shared) x := by
  rw [query]
  split
  · exact h
  next pool hp =>
    refine (keeps_statement h hp sql params).andThen ?_
    rintro y (e | raw) rfl
    · exact h
    · exact h

theorem keeps_begin (h : Fits shared x m) :
    (begin name m).Keeps shared r (Rests shared) x := by
  cases h with
  | connected x hu =>
    cases x with
    | some h => exact .connected (some h) hu
    | none =>
      refine ⟨⟨hu, rfl⟩, ?_⟩
      rintro (e | h)
      · exact .connected none hu
      · refine ⟨rfl, ?_⟩
        rintro (e | u)
        · exact ⟨rfl, fun _ => .connected none hu⟩
        · exact .connected (some h) hu
  | unconnected owns ho => exact .unconnected owns ho

theorem keeps_commit (h : Fits shared x m) :
    (commit name m).Keeps shared r (Rests shared) x := by
  cases h with
  | connected x hu =>
    cases x with
    | none => exact .connected none hu
    | some h =>
      refine ⟨rfl, ?_⟩
      rintro (e | u)
      · exact ⟨rfl, fun _ => ⟨rfl, fun _ => .connected none hu⟩⟩
      · exact ⟨rfl, fun _ => .connected none hu⟩
  | unconnected owns ho => exact .unconnected owns ho

theorem keeps_rollback (h : Fits shared x m) :
    (rollback name m).Keeps shared r (Rests shared) x := by
  cases h with
  | connected x hu =>
    cases x with
    | none => exact .connected none hu
    | some h =>
      refine ⟨rfl, fun result => ⟨rfl, fun _ => ?_⟩⟩
      cases result with
      | error e => exact .connected none hu
      | ok u => exact .connected none hu
  | unconnected owns ho => exact .unconnected owns ho

/-- An operation of a manager that fits what it has makes only calls that agree with that, and
leaves a manager that fits again. -/
theorem keeps_perform (r : Request) (h : Fits shared x m) :
    (perform name m r).Keeps shared r (Rests shared) x := by
  cases r with
  | connect => exact (keeps_connect name h).map fun _ => rfl
  | disconnect => exact (keeps_disconnect name h).map fun _ => rfl
  | query sql params => exact (keeps_query name h sql params).map fun _ => rfl
  | begin => exact (keeps_begin name h).map fun _ => rfl
  | commit => exact (keeps_commit name h).map fun _ => rfl
  | rollback => exact (keeps_rollback name h).map fun _ => rfl

end Script

end FluentSql
