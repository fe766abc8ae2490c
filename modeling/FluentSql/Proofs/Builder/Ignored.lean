import FluentSql.Client
import FluentSql.Proofs.Builder.Clauses

/-! Clauses that are ignored. Whether a clause call counts is decided by the kind of the statement at
hand alone. A chain of methods reports exactly its calls that do not count, each with its clause and
the kind at that point of the chain, and it leads to the same query without them,
`ignored_reported`. -/

namespace FluentSql

/-- The clauses that statements of a kind carry. -/
def StatementKind.carries : StatementKind → Clause → Bool
  | .select, _ => true
  | .insert, _ => false
  | .update, k | .delete, k => k = .where

/-! ### One call -/

/-- A clause call adds to a statement if its kind carries the clause. -/
theorem Statement.isSome_add? {c : Call} {k : Clause} (hc : c.clause? = some k) (s : Statement) :
    (s.add? c).isSome = s.kind.carries k := by
  cases c with
  | filter _ | join _ | groupBy _ | having _ | orderBy _ | limit _ | offset _ =>
    cases hc
    cases s <;> rfl
  | _ => cases hc

/-- What is reported of a call on a statement of a kind. -/
def Call.ignored? (kind : StatementKind) (c : Call) : Option IgnoredClause :=
  (c.clause?.filter (!kind.carries ·)).map (⟨·, kind⟩)

theorem Call.ignored?_of_clause {c : Call} {k : Clause} (hc : c.clause? = some k)
    (kind : StatementKind) :
    c.ignored? kind = if kind.carries k then none else some ⟨k, kind⟩ := by
  rw [ignored?, hc]
  cases h : kind.carries k <;> simp [h]

namespace QueryState

variable (q : QueryState) (c : Call)

theorem ignored_call : (q.call c).ignored = c.ignored? q.kind := by
  cases hc : c.clause? with
  | none =>
    rw [Call.ignored?, hc]
    cases c with
    | insertMany records =>
      simp only [call]
      split <;> rfl
    | table _ | select _ | insert _ | update _ | delete => rfl
    | _ => cases hc
  | some k =>
    have hadd := q.statement.isSome_add? hc
    rw [Call.ignored?_of_clause hc, kind, ← hadd]
    cases c with
    | filter _ | join _ | groupBy _ | having _ | orderBy _ | limit _ | offset _ =>
      cases hc
      simp only [call]
      split
      next s hs => simp [hs]
      next hs => simp [hs, Call.clause?, kind]
    | _ => cases hc

/-- An ignored call changes nothing. -/
theorem state_of_ignored {i : IgnoredClause} (h : c.ignored? q.kind = some i) :
    (q.call c).state = q := by
  obtain ⟨k, hk, -⟩ := Option.map_eq_some_iff.1 h
  obtain ⟨hc, hcarries⟩ := Option.filter_eq_some_iff.1 hk
  have hadd : q.statement.add? c = none := by
    have hroom : (q.statement.add? c).isSome = false := by
      rw [q.statement.isSome_add? hc]
      exact Bool.eq_false_of_not_eq_true' hcarries
    exact Option.not_isSome_iff_eq_none.1 (ne_true_of_eq_false hroom)
  have hclause : c.clause?.isSome = true := by rw [hc]; rfl
  cases c with
  | filter _ | join _ | groupBy _ | having _ | orderBy _ | limit _ | offset _ =>
    simp only [call, hadd]
  | _ => cases hclause

end QueryState

/-! ### Chains -/

/-- What is reported of a method on a statement of a kind: its clause and the kind, if statements of
the kind do not carry the clause. -/
def Method.ignored? (p : StatementKind × Method) : Option IgnoredClause :=
  (p.2.clause?.filter (!p.1.carries ·)).map (⟨·, p.1⟩)

theorem Call.ignored?_call (kind : StatementKind) (m : Method) :
    m.call.ignored? kind = Method.ignored? (kind, m) := by
  rw [ignored?, Method.ignored?, m.clause?_call]

/-- The methods of a chain, each with the kind of the statement that it is called on. -/
def QueryState.onKinds (q : QueryState) : List Method → List (StatementKind × Method)
  | [] => []
  | m :: ms => (q.kind, m) :: (q.call m.call).state.onKinds ms

/-- A chain of methods called on a client, whatever comes of each: the client behind it, and the
events on the way. -/
def Client.calls {μ : Type} (c : Client μ) : List Method → Client μ × List Event
  | [] => (c, [])
  | m :: ms =>
    let o := c.call m.call
    let rest := o.next.calls ms
    (rest.1, o.events ++ rest.2)

theorem QueryState.getElem?_onKinds (q : QueryState) (ms : List Method) (i : Nat) :
    (q.onKinds ms)[i]? = ms[i]?.map ((q.calls ((ms.take i).map Method.call)).kind, ·) := by
  induction ms generalizing q i with
  | nil => rfl
  | cons m ms ih =>
    cases i with
    | zero => rfl
    | succ i => exact ih (q.call m.call).state i

namespace Client

variable {μ : Type} (c : Client μ)

theorem events_call (m : Method) :
    (c.call m.call).events =
      ((Method.ignored? (c.state.kind, m)).map Event.clauseIgnored).toList := by
  rw [call, QueryState.ignored_call, Call.ignored?_call]

theorem fst_calls (ms : List Method) :
    (c.calls ms).1 = { c with state := c.state.calls (ms.map Method.call) } := by
  induction ms generalizing c with
  | nil => rfl
  | cons m ms ih => exact ih (c.call m.call).next

theorem snd_calls (ms : List Method) :
    (c.calls ms).2 = ((c.state.onKinds ms).filterMap Method.ignored?).map Event.clauseIgnored := by
  induction ms generalizing c with
  | nil => rfl
  | cons m ms ih =>
    have hrest := ih (c.call m.call).next
    have hnext : (c.call m.call).next.state = (c.state.call m.call).state := rfl
    rw [calls, QueryState.onKinds, events_call, hrest, hnext]
    cases h : Method.ignored? (c.state.kind, m) with
    | none => rw [List.filterMap_cons_none h]; rfl
    | some i => rw [List.filterMap_cons_some h]; rfl

end Client

/-! ### Chains without the calls that do not count -/

/-- The methods of a chain of which nothing is reported. -/
def QueryState.counted (q : QueryState) (ms : List Method) : List Method :=
  ((q.onKinds ms).filter fun p => (Method.ignored? p).isNone).map Prod.snd

namespace QueryState

variable {q : QueryState} {m : Method}

theorem counted_of_ignored {i : IgnoredClause} (h : Method.ignored? (q.kind, m) = some i)
    (ms : List Method) : q.counted (m :: ms) = q.counted ms := by
  rw [counted, onKinds, List.filter_cons_of_neg (by simp [h]), state_of_ignored q m.call (Call.ignored?_call _ m ▸ h), counted]

theorem counted_of_not_ignored (h : Method.ignored? (q.kind, m) = none) (ms : List Method) :
    q.counted (m :: ms) = m :: (q.call m.call).state.counted ms := by
  rw [counted, onKinds, List.filter_cons_of_pos (by simp [h]), List.map_cons, counted]

end QueryState

theorem Client.calls_counted {μ : Type} (c : Client μ) (ms : List Method) :
    c.calls (c.state.counted ms) = ((c.calls ms).1, []) := by
  induction ms generalizing c with
  | nil => rfl
  | cons m ms ih =>
    have hrest := ih (c.call m.call).next
    -- whether the first method counts is decided by the kind that it meets, with or without the rest
    cases h : Method.ignored? (c.state.kind, m) with
    | none =>
      have hevents : (c.call m.call).events = [] := by rw [events_call, h]; rfl
      have hnext : (c.call m.call).next.state = (c.state.call m.call).state := rfl
      rw [QueryState.counted_of_not_ignored h, calls, ← hnext, hrest, hevents]
      rfl
    | some i =>
      have hnext : (c.call m.call).next = c := by
        rw [call, QueryState.state_of_ignored c.state m.call (Call.ignored?_call _ m ▸ h)]
      rw [hnext] at hrest
      rw [QueryState.counted_of_ignored h, hrest, calls, hnext]

/-- Whatever client a chain of methods is called on, and whatever comes of the calls: what is
reported on the way are warnings of the builder, one for each clause call on a statement whose kind
does not carry the clause, in order, with the clause and the kind at that point of the chain, and
none for any other call. The chain without these calls reports nothing, and it leads to the same
client. -/
theorem ignored_reported {μ : Type} (c : Client μ) (ms : List Method) :
    let kindAt (i : Nat) := (c.state.calls ((ms.take i).map Method.call)).kind
    let made := c.state.onKinds ms
    (∀ i, made[i]? = ms[i]?.map (kindAt i, ·)) ∧
      (c.calls ms).1 = { c with state := c.state.calls (ms.map Method.call) } ∧
      (c.calls ms).2 = (made.filterMap Method.ignored?).map Event.clauseIgnored ∧
      (∀ e ∈ (c.calls ms).2, e.level = .warn ∧ e.source = .builder) ∧
      c.calls (c.state.counted ms) = ((c.calls ms).1, []) := by
  intro kindAt made
  refine ⟨c.state.getElem?_onKinds ms, c.fst_calls ms, c.snd_calls ms, ?_, c.calls_counted ms⟩
  intro e he
  rw [c.snd_calls ms] at he
  obtain ⟨i, -, rfl⟩ := List.mem_map.1 he
  exact ⟨rfl, rfl⟩

/-- Records that were refused start no INSERT; a DELETE carries no LIMIT, but conditions. -/
example : ((⟨(), .forTable "users", {}⟩ : Client Unit).calls
    [.insertMany [], .limit 3, .delete, .limit 3, .whereNull "id"]).2 =
      [.clauseIgnored ⟨.limit, .delete⟩] := rfl

end FluentSql
