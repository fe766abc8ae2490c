import FluentSql.Proofs.Builder.Methods
import FluentSql.Proofs.Query.Accepted
import FluentSql.Proofs.Record.Pairs

/-! The columns that are written. A record made of pairs has every name once, at the place where the
name came first and with the value that came last; what is updated is such a record, and so is each
of many that are inserted at once. The pairs of a single insert are taken as they are, repeated
names and all: only where none repeats is it the insert of the one record, `columns_of_methods`. -/

namespace FluentSql

/-! ### One record as pairs, and as one of many -/

namespace QueryState

variable (q : QueryState) (pairs : List (String × Value))

theorem call_insert : (q.call (.insert pairs)).state = q.restart (.insert (.ofPairs pairs)) := rfl

theorem call_insertMany_ofPairs : (q.call (.insertMany [.ofPairs pairs])).state =
    q.restart (.insert (.ofPairs (Record.ofPairs pairs).entries)) := by
  simp only [call, Insert.ofRecords_singleton]

theorem restart_insert_inj {i j : Insert} (h : q.restart (.insert i) = q.restart (.insert j)) :
    i = j := by
  have hs : Statement.insert i = .insert j := congrArg QueryState.statement h
  exact Statement.insert.inj hs

/-- The two ways to insert one record come to the same where no name repeats. -/
theorem call_insert_eq_iff :
    (q.call (.insert pairs)).state = (q.call (.insertMany [.ofPairs pairs])).state ↔
      (pairs.map Prod.fst).Nodup := by
  rw [call_insert, call_insertMany_ofPairs]
  constructor
  · intro h
    have hcolumns := congrArg Insert.columns (q.restart_insert_inj h)
    have hnames : pairs.map Prod.fst = (Record.ofPairs pairs).entries.map Prod.fst := hcolumns
    rw [hnames]
    exact (Record.ofPairs pairs).nodup
  · intro h
    rw [Record.entries_ofPairs h]

end QueryState

/-- The columns of an INSERT are distinct, unless pairs were inserted in which a name repeats. -/
theorem Insert.StartedBy.nodup_columns_iff {i : Insert} {m : Method} {r : Nat}
    (h : i.StartedBy m r) :
    i.columns.Nodup ↔ ∀ pairs, m = .insert pairs → (pairs.map Prod.fst).Nodup := by
  cases h with
  | insert pairs hi =>
    subst hi
    constructor
    · rintro h pairs' ⟨⟩
      exact h
    · exact fun h => h pairs rfl
  | insertMany records hr =>
    obtain ⟨first, hf, -⟩ := ofRecords_ok_iff_alike.1 ⟨i, hr⟩
    cases records with
    | nil => cases hf
    | cons r rs =>
      obtain ⟨hc, -, -⟩ := ofRecords_eq_ok_iff.1 hr
      refine iff_of_true ?_ ?_
      · rw [hc]
        exact r.nodup
      · rintro pairs ⟨⟩

/-- Whatever chain of methods is called: the columns of an UPDATE are distinct, and so are those of
an INSERT, unless it was started by a single insert of pairs in which a name repeats. The one record
made of pairs, inserted as one of many, has every name once, in the order in which the names come
first, and the value that comes last; it is what the single insert of the pairs comes to exactly if
no name repeats. -/
theorem columns_of_methods (table : String) (ms : List Method) :
    let q := (QueryState.forTable table).calls (ms.map Method.call)
    (∀ u, q.statement = .update u → u.payload.keys.Nodup) ∧
      (∀ i, q.statement = .insert i → ∃ before m after r, ms = before ++ m :: after ∧
        i.StartedBy m r ∧
        (i.columns.Nodup ↔ ∀ pairs, m = .insert pairs → (pairs.map Prod.fst).Nodup)) ∧
      ∀ pairs : List (String × Value),
        (∃ i, (q.call (.insertMany [.ofPairs pairs])).state = q.restart (.insert i) ∧
          i.columns = (pairs.map Prod.fst).eraseDups ∧
          ∀ k, (i.columns.zip i.values).lookup k = pairs.reverse.lookup k) ∧
        ((q.call (.insert pairs)).state = (q.call (.insertMany [.ofPairs pairs])).state ↔
          (pairs.map Prod.fst).Nodup) := by
  intro q
  refine ⟨?_, ?_, ?_⟩
  · exact fun u _ => u.payload.nodup
  · intro i hi
    obtain ⟨before, m, after, r, hms, hm, -⟩ := Method.insert_started table ms hi
    exact ⟨before, m, after, r, hms, hm, hm.nodup_columns_iff⟩
  · intro pairs
    refine ⟨⟨_, q.call_insertMany_ofPairs pairs, Record.keys_ofPairs pairs, ?_⟩,
      q.call_insert_eq_iff pairs⟩
    intro k
    have hzip : (Insert.ofPairs (Record.ofPairs pairs).entries).columns.zip
        (Insert.ofPairs (Record.ofPairs pairs).entries).values = (Record.ofPairs pairs).entries :=
      (List.zip_of_prod rfl rfl).symm
    rw [hzip]
    exact Record.get?_ofPairs pairs k

/-- Two values under one name are one column of an UPDATE; two names are two columns of an INSERT.
-/
theorem columns_of_methods_update :
    let repeated := [("name", Value.text "A"), ("name", .text "B")]
    let i : Insert := ⟨["name", "age"], [.text "A", .int 1]⟩
    ((QueryState.forTable "users").calls ([Method.update repeated].map Method.call)).statement =
        .update { payload := .ofPairs repeated } ∧
      (Record.ofPairs repeated).keys.Nodup ∧
      ∃ before m after r, [Method.insert [("name", .text "A"), ("age", .int 1)]] =
          before ++ m :: after ∧ i.StartedBy m r ∧
        (i.columns.Nodup ↔ ∀ pairs, m = .insert pairs → (pairs.map Prod.fst).Nodup) := by
  intro repeated i
  obtain ⟨updated, -, -⟩ := columns_of_methods "users" [.update repeated]
  obtain ⟨-, inserted, -⟩ :=
    columns_of_methods "users" [.insert [("name", .text "A"), ("age", .int 1)]]
  exact ⟨rfl, updated _ rfl, inserted i rfl⟩

/-- The same two values in a single insert: the column is there twice, in the state and in the text,
and the state is not that of the one record inserted as one of many. -/
theorem columns_repeat :
    let repeated := [("name", Value.text "A"), ("name", .text "B")]
    let q := (QueryState.forTable "users").calls ([Method.insert repeated].map Method.call)
    q.statement = .insert ⟨["name", "name"], [.text "A", .text "B"]⟩ ∧
      (∃ b, q.compile .question = .ok b ∧
        b.sql = "INSERT INTO users (name, name) VALUES (?, ?)") ∧
      ¬ ["name", "name"].Nodup ∧
      q ≠ ((QueryState.forTable "users").call (.insertMany [.ofPairs repeated])).state := by
  intro repeated q
  have haccepted : q.accepted = true := by decide
  have hcompile := QueryState.compile_of_accepted .question haccepted
  refine ⟨rfl, ⟨_, hcompile, by decide⟩, by decide, ?_⟩
  intro h
  rw [QueryState.call_insertMany_ofPairs] at h
  have hcolumns := congrArg Insert.columns (QueryState.restart_insert_inj _ h)
  have hne : ["name", "name"] ≠ (Record.ofPairs repeated).entries.map Prod.fst := by decide
  exact hne hcolumns

end FluentSql
