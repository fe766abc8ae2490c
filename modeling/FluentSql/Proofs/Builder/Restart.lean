import FluentSql.Query.Builder

/-! Calls that start a statement afresh. Such a call keeps the table and nothing else, so that a
chain may be cut in front of it and run on a fresh query of that table, `calls_restart`: nothing
gets from one statement into the next. A call that was refused leaves no trace at all. -/

namespace FluentSql

/-! ### Restarting and refused calls -/

/-- The call starts a statement afresh. -/
inductive Call.Restarts : Call → Prop
  | table (name : String) : Restarts (.table name)
  | select (columns : List String) : Restarts (.select columns)
  | insert (pairs : List (String × Value)) : Restarts (.insert pairs)
  | insertMany {records : List Record} {i : Insert} (h : Insert.ofRecords records = .ok i) :
    Restarts (.insertMany records)
  | update (pairs : List (String × Value)) : Restarts (.update pairs)
  | delete : Restarts .delete

/-- The call names records that cannot be inserted at once. -/
def Call.refused : Call → Bool
  | .insertMany records => !(Insert.ofRecords records).isOk
  | _ => false

namespace QueryState

theorem calls_append (q : QueryState) (cs ds : List Call) :
    q.calls (cs ++ ds) = (q.calls cs).calls ds :=
  List.foldl_append

theorem calls_cons (q : QueryState) (c : Call) (cs : List Call) :
    q.calls (c :: cs) = (q.call c).state.calls cs :=
  rfl

/-- Of the query before, a restarting call keeps the table. -/
theorem call_of_restarts {k : Call} (hk : k.Restarts) (q : QueryState) :
    q.call k = (forTable q.table).call k := by
  cases hk with
  | table name => rfl
  | select columns => rfl
  | insert pairs => rfl
  | insertMany h =>
    simp only [call, h]
    rfl
  | update pairs => rfl
  | delete => rfl

theorem call_of_refused {c : Call} (hc : c.refused = true) (q : QueryState) :
    (q.call c).state = q := by
  cases c with
  | insertMany records =>
    cases h : Insert.ofRecords records with
    | ok i => simp [Call.refused, h, Except.isOk, Except.toBool] at hc
    | error e => simp only [call, h]
  | _ => cases hc

/-- A chain without its refused calls. -/
theorem calls_filter_refused (q : QueryState) (cs : List Call) :
    q.calls (cs.filter (!·.refused)) = q.calls cs := by
  induction cs generalizing q with
  | nil => rfl
  | cons c cs ih =>
    cases hc : c.refused with
    | false => rw [List.filter_cons_of_pos (by simp [hc]), calls_cons, calls_cons, ih]
    | true => rw [List.filter_cons_of_neg (by simp [hc]), calls_cons, call_of_refused hc, ih]

end QueryState

/-- From a restarting call on, a chain leads to what it leads to on a fresh query of the table at
hand, and on a fresh query of any table if the call names one. Refused calls do not count, wherever
they are made. -/
theorem calls_restart (q : QueryState) (before after : List Call) (k : Call) (hk : k.Restarts) :
    let fresh := QueryState.forTable (q.calls before).table
    q.calls (before ++ k :: after) = fresh.calls (k :: after) ∧
      (∀ p, (q.calls (before ++ k :: after)).build p = (fresh.calls (k :: after)).build p) ∧
      (∀ name t, k = .table name →
        q.calls (before ++ k :: after) = (QueryState.forTable t).calls (k :: after)) ∧
      ∀ (r : QueryState) (cs : List Call), r.calls (cs.filter (!·.refused)) = r.calls cs := by
  intro fresh
  have h : q.calls (before ++ k :: after) = fresh.calls (k :: after) := by
    rw [QueryState.calls_append, QueryState.calls_cons, QueryState.call_of_restarts hk,
      QueryState.calls_cons]
  refine ⟨h, fun p => by rw [h], ?_, QueryState.calls_filter_refused⟩
  rintro name t rfl
  exact h

theorem calls_restart_insertMany :
    let account (name : String) : Record := .ofPairs [("name", .text name), ("admin", .bool false)]
    let before : List Call := [.table "users", .update [("name", .text "x")],
      .andWhere "id" .eq (.int 1), .insertMany [account "a", .ofPairs [("name", .text "b")]]]
    let k : Call := .insertMany [account "a", account "b"]
    (k.Restarts ∧ (QueryState.calls {} before).table = "users") ∧
      QueryState.calls {} (before ++ [k, .limit 3]) =
        (QueryState.forTable "users").calls [k, .limit 3] := by
  intro account before k
  have hk : k.Restarts := .insertMany (i := ⟨["name", "admin"],
    [.text "a", .bool false, .text "b", .bool false]⟩) rfl
  have ht : (QueryState.calls {} before).table = "users" := rfl
  exact ⟨⟨hk, ht⟩, ht ▸ (calls_restart {} before [.limit 3] k hk).1⟩

end FluentSql
