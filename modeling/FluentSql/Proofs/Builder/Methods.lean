import FluentSql.Proofs.Builder.Records
import FluentSql.Proofs.Builder.Restart
import FluentSql.Proofs.Query.Refused
import Mathlib.Data.List.Induction

/-! What chains of the builder's methods can build. Methods make fewer calls than there are: they
give an operator a value exactly if it takes one, and they never join a HAVING by OR. With the calls
that start a statement this comes to an invariant of all chains, `Method.built_calls`, under which
some refusals of the compiler cannot come, `refused_of_methods`. -/

namespace FluentSql

/-! ### Methods -/

/-- The methods of the builder's chain. -/
inductive Method where
  | table (name : String)
  | select (columns : List String)
  | selectAll
  | andWhere (column : String) (operator : Operator) (value : Value)
  | orWhere (column : String) (operator : Operator) (value : Value)
  | whereNull (column : String)
  | whereNotNull (column : String)
  | join (table left : String) (operator : Operator) (right : String)
  | leftJoin (table left : String) (operator : Operator) (right : String)
  | rightJoin (table left : String) (operator : Operator) (right : String)
  | fullJoin (table left : String) (operator : Operator) (right : String)
  | groupBy (columns : List String)
  | having (column : String) (operator : Operator) (value : Value)
  | orderBy (column : String)
  | orderByDesc (column : String)
  | orderByWith (column : String) (direction : Direction)
  | limit (n : UInt64)
  | offset (n : UInt64)
  | insert (pairs : List (String × Value))
  | insertMany (records : List Record)
  | update (pairs : List (String × Value))
  | delete

/-- The call that a method makes. -/
def Method.call : Method → Call
  | table name => .table name
  | select columns => .select columns
  | selectAll => .select []
  | andWhere c o v => .andWhere c o v
  | orWhere c o v => .orWhere c o v
  | whereNull c => .whereNull c
  | whereNotNull c => .whereNotNull c
  | join t l o r => .join ⟨.inner, t, l, o, r⟩
  | leftJoin t l o r => .join ⟨.left, t, l, o, r⟩
  | rightJoin t l o r => .join ⟨.right, t, l, o, r⟩
  | fullJoin t l o r => .join ⟨.full, t, l, o, r⟩
  | groupBy cs => .groupBy cs
  | having c o v => .havingAnd c o v
  | orderBy c => .orderBy ⟨c, .ascending⟩
  | orderByDesc c => .orderBy ⟨c, .descending⟩
  | orderByWith c d => .orderBy ⟨c, d⟩
  | limit n => .limit n
  | offset n => .offset n
  | insert pairs => .insert pairs
  | insertMany records => .insertMany records
  | update pairs => .update pairs
  | delete => .delete

/-! ### The invariant -/

/-- There is a value exactly if the operator takes one. -/
def Condition.Fits (c : Condition) : Prop :=
  c.value.isSome = !c.operator.isUnary

theorem Condition.fits_of (k : Combinator) (column : String) (o : Operator) (v : Value) :
    (Condition.of k column o v).Fits := by
  rw [Fits, Condition.of]
  cases o.isUnary <;> rfl

/-- At least one column, at most one term to sort by, and HAVING by AND alone. -/
structure Select.Built (s : Select) : Prop where
  columns : s.columns ≠ []
  orderBy : s.orderBy.length ≤ 1
  conditions : ∀ c ∈ s.conditions, c.Fits
  having : ∀ c ∈ s.having, c.Fits ∧ c.combinator = .and

/-- Whole records, at least one; without columns they have no values. -/
structure Insert.Built (i : Insert) : Prop where
  whole : ∃ r, 1 ≤ r ∧ i.values.length = r * i.columns.length
  values_eq_nil : i.columns = [] → i.values = []

namespace Statement

def Built : Statement → Prop
  | .select s => s.Built
  | .insert i => i.Built
  | .update u => ∀ c ∈ u.conditions, c.Fits
  | .delete d => ∀ c ∈ d.conditions, c.Fits

end Statement

theorem Insert.built_of_length {i : Insert} {r : Nat} (hr : 1 ≤ r)
    (h : i.values.length = r * i.columns.length) : i.Built := by
  refine ⟨⟨r, hr, h⟩, ?_⟩
  intro hc
  rw [hc, List.length_nil, Nat.mul_zero] at h
  exact List.length_eq_zero_iff.1 h

theorem Insert.length_ofPairs (pairs : List (String × Value)) :
    (ofPairs pairs).values.length = 1 * (ofPairs pairs).columns.length := by
  simp [ofPairs]

theorem Insert.ofRecords_pos {records : List Record} {i : Insert}
    (h : ofRecords records = .ok i) : 1 ≤ records.length := by
  cases records with
  | nil => cases h
  | cons r rs => exact Nat.succ_pos _

theorem Select.built_selecting (columns : List String) :
    (if columns.isEmpty then {} else { columns } : Select).Built := by
  split
  next => exact ⟨by simp, Nat.zero_le 1, List.forall_mem_nil _, List.forall_mem_nil _⟩
  next hc =>
    exact ⟨fun hn => hc (List.isEmpty_iff.2 hn), Nat.zero_le 1, List.forall_mem_nil _,
      List.forall_mem_nil _⟩

/-! ### What a call keeps -/

/-- What methods see to in the conditions that they add. -/
def Call.Fits : Call → Prop
  | .filter c => c.Fits
  | .having c => c.Fits ∧ c.combinator = .and
  | _ => True

theorem Method.fits_call (m : Method) : m.call.Fits := by
  cases m with
  | andWhere c o v => exact Condition.fits_of .and c o v
  | orWhere c o v => exact Condition.fits_of .or c o v
  | whereNull c => rfl
  | whereNotNull c => rfl
  | having c o v => exact ⟨Condition.fits_of .and c o v, rfl⟩
  | _ => trivial

theorem forall_mem_snoc {α : Type} {P : α → Prop} {xs : List α} {x : α} (hxs : ∀ y ∈ xs, P y)
    (hx : P x) : ∀ y ∈ xs ++ [x], P y :=
  List.forall_mem_append.2 ⟨hxs, List.forall_mem_singleton.2 hx⟩

/-- A clause that is added fits to those before it. -/
theorem Statement.built_add {s t : Statement} {c : Call} (hs : s.Built) (hc : c.Fits)
    (h : s.add? c = some t) : t.Built := by
  cases s with
  | select s =>
    obtain ⟨columns, orderBy, conditions, having⟩ := hs
    cases c with
    | filter d =>
      cases h
      exact ⟨columns, orderBy, forall_mem_snoc conditions hc, having⟩
    | having d =>
      cases h
      exact ⟨columns, orderBy, conditions, forall_mem_snoc having hc⟩
    | orderBy t =>
      cases h
      exact ⟨columns, Nat.le_refl 1, conditions, having⟩
    | join _ | groupBy _ | limit _ | offset _ =>
      cases h
      exact ⟨columns, orderBy, conditions, having⟩
    | _ => cases h
  | insert i => cases c <;> cases h
  | update u =>
    cases c with
    | filter d =>
      cases h
      exact forall_mem_snoc hs hc
    | _ => cases h
  | delete e =>
    cases c with
    | filter d =>
      cases h
      exact forall_mem_snoc hs hc
    | _ => cases h

namespace QueryState

/-- A clause call adds to the statement, or leaves the query as it is. -/
theorem call_of_not_restarts {c : Call} (hc : ¬ c.Restarts) (q : QueryState) :
    (q.call c).state = q ∨ ∃ s, q.statement.add? c = some s ∧ (q.call c).state = q.restart s := by
  cases c with
  | table name => exact absurd (.table name) hc
  | select columns => exact absurd (.select columns) hc
  | insert pairs => exact absurd (.insert pairs) hc
  | insertMany records =>
    cases h : Insert.ofRecords records with
    | ok i => exact absurd (.insertMany h) hc
    | error e =>
      left
      simp only [call, h]
  | update pairs => exact absurd (.update pairs) hc
  | delete => exact absurd .delete hc
  | _ =>
    simp only [call]
    split
    next s hs => exact .inr ⟨s, hs, rfl⟩
    next => exact .inl rfl

theorem built_restart {c : Call} (hc : c.Restarts) (q : QueryState) :
    (q.call c).state.statement.Built := by
  cases hc with
  | table name => exact Select.built_selecting []
  | select columns => exact Select.built_selecting columns
  | insert pairs => exact Insert.built_of_length (Nat.le_refl 1) (Insert.length_ofPairs pairs)
  | insertMany h =>
    simp only [call, h]
    exact Insert.built_of_length (Insert.ofRecords_pos h) (Insert.holds_of_ofRecords h).length_values
  | update pairs => exact List.forall_mem_nil _
  | delete => exact List.forall_mem_nil _

/-- What one call keeps. -/
theorem built_call {q : QueryState} {c : Call} (hq : q.statement.Built) (hc : c.Fits) :
    (q.call c).state.statement.Built := by
  by_cases hr : c.Restarts
  · exact built_restart hr q
  · rcases call_of_not_restarts hr q with h | ⟨s, hs, h⟩
    · rwa [h]
    · rw [h]
      exact Statement.built_add hq hc hs

end QueryState

/-- What a chain of methods keeps. -/
theorem Method.built_calls (ms : List Method) {q : QueryState} (hq : q.statement.Built) :
    (q.calls (ms.map Method.call)).statement.Built := by
  induction ms generalizing q with
  | nil => exact hq
  | cons m ms ih => exact ih (QueryState.built_call hq m.fits_call)

/-! ### Where an INSERT comes from -/

/-- An INSERT is started by a call with its records, so many of them. -/
inductive Insert.StartedBy (i : Insert) : Method → Nat → Prop where
  | insert (pairs : List (String × Value)) : i = .ofPairs pairs → i.StartedBy (.insert pairs) 1
  | insertMany (records : List Record) : Insert.ofRecords records = .ok i →
      i.StartedBy (.insertMany records) records.length

theorem Insert.StartedBy.length_values {i : Insert} {m : Method} {r : Nat} (h : i.StartedBy m r) :
    1 ≤ r ∧ i.values.length = r * i.columns.length := by
  cases h with
  | insert pairs hi =>
    subst hi
    exact ⟨Nat.le_refl 1, length_ofPairs pairs⟩
  | insertMany records h => exact ⟨ofRecords_pos h, (holds_of_ofRecords h).length_values⟩

/-- A call that restarts to an INSERT is one that starts it. -/
theorem Insert.startedBy_of_restarts {m : Method} (hm : m.call.Restarts) {q : QueryState}
    {i : Insert} (h : (q.call m.call).state.statement = .insert i) : ∃ r, i.StartedBy m r := by
  cases m with
  | insert pairs =>
    cases h
    exact ⟨1, .insert pairs rfl⟩
  | insertMany records =>
    cases hm with
    | insertMany hr =>
      simp only [Method.call, QueryState.call, hr] at h
      cases h
      exact ⟨records.length, .insertMany records hr⟩
  | table _ | select _ | selectAll | update _ | delete => cases h
  | _ => cases hm

/-- An INSERT that was not started just now was there before. -/
theorem QueryState.insert_of_not_restarts {c : Call} (hc : ¬ c.Restarts) {q : QueryState}
    {i : Insert} (h : (q.call c).state.statement = .insert i) : q.statement = .insert i := by
  rcases call_of_not_restarts hc q with hq | ⟨s, hs, hq⟩
  · rwa [hq] at h
  · rw [hq] at h
    obtain rfl : s = .insert i := h
    cases hst : q.statement with
    | insert j =>
      rw [hst] at hs
      cases c <;> cases hs
    | _ =>
      rw [hst] at hs
      cases c <;> cases hs

/-- Every INSERT that a chain ends in was started by one of its methods, and none of those behind it
started another statement. -/
theorem Method.insert_started (table : String) (ms : List Method) {i : Insert}
    (h : ((QueryState.forTable table).calls (ms.map Method.call)).statement = .insert i) :
    ∃ before m after r, ms = before ++ m :: after ∧ i.StartedBy m r ∧
      ∀ k ∈ after, ¬ k.call.Restarts := by
  induction ms using List.reverseRecOn with
  | nil => cases h
  | append_singleton ms m ih =>
    rw [List.map_append, QueryState.calls_append] at h
    by_cases hm : m.call.Restarts
    · obtain ⟨r, hr⟩ := Insert.startedBy_of_restarts hm h
      exact ⟨ms, m, [], r, rfl, hr, List.forall_mem_nil _⟩
    · obtain ⟨before, k, after, r, rfl, hk, ha⟩ := ih (QueryState.insert_of_not_restarts hm h)
      refine ⟨before, k, after ++ [m], r, ?_, hk, forall_mem_snoc ha hm⟩
      rw [List.append_assoc, List.cons_append]

/-! ### Refusals that cannot come -/

/-- In what methods build, no operator lacks its value and no record lacks values. -/
theorem Statement.Built.blames {s : Statement} (hs : s.Built) {e : CompileError}
    (h : s.Blames e) :
    (∀ o c, e ≠ .missingValue o c) ∧ ∀ v c, e ≠ .raggedInsert v c := by
  have fits : ∀ c ∈ s.tests, c.Fits := by
    cases s with
    | select s =>
      exact List.forall_mem_append.2 ⟨hs.conditions, fun c hc => (hs.having c hc).1⟩
    | insert i => exact List.forall_mem_nil _
    | update u => exact hs
    | delete d => exact hs
  cases h with
  | missingValue hc hu hv =>
    have hf := fits _ hc
    rw [Condition.Fits, hu, hv] at hf
    cases hf
  | @raggedInsert i hv hr =>
    exfalso
    obtain ⟨⟨r, -, hlen⟩, hnil⟩ := hs
    rw [Insert.recordCount?] at hr
    split at hr
    next hbad =>
      rcases hbad with hc | hm
      · exact hv (hnil (List.isEmpty_iff.1 hc))
      · rw [hlen, Nat.mul_mod_left] at hm
        exact hm rfl
    next => cases hr
  | _ => exact ⟨fun _ _ h => (by cases h), fun _ _ h => (by cases h)⟩

/-- Whatever chain of methods is called on a new builder or on one for a table, some of them refused
or ignored on the way: a SELECT has columns, at most one term to sort by, and HAVING by AND; an
operator has a value exactly if it takes one; an INSERT has the values of the records that it was
started with, whole records and at least one. What it is refused for, if it is, is to be found in it:
the table is blank, a join does not compare, a list or the operand of a BETWEEN is not in its place,
or there is nothing to insert or to update; it is never a value that is missing, and never a record
that is not whole. -/
theorem refused_of_methods (table : String) (ms : List Method) :
    let q := (QueryState.forTable table).calls (ms.map Method.call)
    QueryState.forTable "" = {} ∧ q.statement.Built ∧
      (∀ i, q.statement = .insert i → ∃ before m after r, ms = before ++ m :: after ∧
        i.StartedBy m r ∧ (∀ k ∈ after, ¬ k.call.Restarts) ∧ 1 ≤ r ∧
          i.values.length = r * i.columns.length) ∧
      ∀ p e, q.build p = .error e → ∃ f : CompileError, e = .validation f.message ∧ q.Blames f ∧
        (∀ o c, f ≠ .missingValue o c) ∧ ∀ v c, f ≠ .raggedInsert v c := by
  intro q
  have hq : q.statement.Built := Method.built_calls ms (Select.built_selecting [])
  refine ⟨rfl, hq, ?_, ?_⟩
  · intro i hi
    obtain ⟨before, m, after, r, hms, hm, ha⟩ := Method.insert_started table ms hi
    exact ⟨before, m, after, r, hms, hm, ha, hm.length_values⟩
  · intro p e he
    rw [QueryState.build] at he
    cases hf : q.compile p with
    | ok b =>
      rw [hf] at he
      cases he
    | error f =>
      rw [hf] at he
      cases he
      have hb := QueryState.blames_of_compile hf
      refine ⟨f, rfl, hb, ?_⟩
      cases hb with
      | blankTable => exact ⟨fun _ _ h => (by cases h), fun _ _ h => (by cases h)⟩
      | statement h => exact hq.blames h

/-- An INSERT of two records, behind which one of none is refused and a LIMIT is ignored; and an
UPDATE of nothing, which cannot be compiled. -/
theorem refused_of_methods_insertMany :
    let user (name : String) : Record := .ofPairs [("name", .text name)]
    let ms : List Method :=
      [.andWhere "id" .eq (.int 1), .insertMany [user "a", user "b"], .insertMany [], .limit 3]
    let q := (QueryState.forTable "users").calls (ms.map Method.call)
    let u := (QueryState.forTable "users").calls ([.orWhere "id" .eq (.int 1), .update []].map
      Method.call)
    let i : Insert := ⟨["name"], [.text "a", .text "b"]⟩
    (q.statement = .insert i ∧ ∃ before m after r, ms = before ++ m :: after ∧ i.StartedBy m r ∧
      (∀ k ∈ after, ¬ k.call.Restarts) ∧ 1 ≤ r ∧ i.values.length = r * i.columns.length) ∧
      u.build .dollar = .error (.validation CompileError.emptyUpdate.message) ∧
      ∃ f : CompileError, CompileError.emptyUpdate.message = f.message ∧ u.Blames f := by
  intro user ms q u i
  obtain ⟨-, -, hinsert, -⟩ := refused_of_methods "users" ms
  obtain ⟨-, -, -, hrefused⟩ :=
    refused_of_methods "users" [.orWhere "id" .eq (.int 1), .update []]
  have hq : q.statement = .insert i := rfl
  have hblank : Text.blank "users" = false := by decide
  have hu : u.build .dollar = .error (.validation CompileError.emptyUpdate.message) := by
    have hpieces : u.pieces = .error .emptyUpdate := by
      rw [QueryState.pieces, show u.table = "users" from rfl, hblank]
      rfl
    rw [QueryState.build, QueryState.compile, hpieces]
    rfl
  refine ⟨⟨hq, hinsert i hq⟩, hu, ?_⟩
  obtain ⟨f, hf, hb, -⟩ := hrefused .dollar _ hu
  exact ⟨f, Error.validation.inj hf, hb⟩

end FluentSql
