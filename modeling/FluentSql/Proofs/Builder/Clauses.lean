import FluentSql.Proofs.Builder.Methods

/-! Chains of clause calls. What such a chain makes of a query can be said clause by clause: the
conditions, joins and groupings called for are added behind those that are there, the last sorting,
LIMIT and OFFSET called for take the place of those that are there, and a statement takes only the
clauses that it carries, `Statement.withClauses`. So calls of different clauses may change places,
`clause_calls_independent`. -/

namespace FluentSql

/-! ### What a call asks for -/

namespace Call

def condition? : Call → Option Condition
  | filter c => some c
  | _ => none

def join? : Call → Option Join
  | join j => some j
  | _ => none

def grouping? : Call → Option (List String)
  | groupBy cs => some cs
  | _ => none

def having? : Call → Option Condition
  | having c => some c
  | _ => none

def sortTerm? : Call → Option SortTerm
  | orderBy t => some t
  | _ => none

def limit? : Call → Option UInt64
  | limit n => some n
  | _ => none

def offset? : Call → Option UInt64
  | offset n => some n
  | _ => none

end Call

/-! ### What a chain asks for -/

/-- What the last of some calls asks for. -/
def Call.last? {α : Type} (f : Call → Option α) (cs : List Call) : Option α :=
  (cs.filterMap f).getLast?

/-- The conditions asked for behind those at hand. -/
def Call.conditions (old : List Condition) (cs : List Call) : List Condition :=
  old ++ cs.filterMap condition?

def Select.withClauses (s : Select) (cs : List Call) : Select where
  columns := s.columns
  joins := s.joins ++ cs.filterMap Call.join?
  conditions := Call.conditions s.conditions cs
  groupBy := s.groupBy ++ (cs.filterMap Call.grouping?).flatten
  having := s.having ++ cs.filterMap Call.having?
  orderBy := ((Call.last? Call.sortTerm? cs).map fun t => [t]).getD s.orderBy
  limit := (Call.last? Call.limit? cs).or s.limit
  offset := (Call.last? Call.offset? cs).or s.offset

/-- A statement with what calls ask for, as far as it carries such clauses. -/
def Statement.withClauses (s : Statement) (cs : List Call) : Statement :=
  match s with
  | .select s => .select (s.withClauses cs)
  | .insert i => .insert i
  | .update u => .update { u with conditions := Call.conditions u.conditions cs }
  | .delete d => .delete { d with conditions := Call.conditions d.conditions cs }

section Chain

variable (cs ds : List Call)

theorem Call.last?_append {α : Type} (f : Call → Option α) :
    last? f (cs ++ ds) = (last? f ds).or (last? f cs) := by
  rw [last?, List.filterMap_append, List.getLast?_append]
  rfl

theorem Call.conditions_append (old : List Condition) :
    conditions old (cs ++ ds) = conditions (conditions old cs) ds := by
  rw [conditions, List.filterMap_append, ← List.append_assoc]
  rfl

theorem Call.conditions_of_none {c : Call} (hc : c.condition? = none) (old : List Condition) :
    conditions old [c] = old := by
  rw [conditions, List.filterMap_cons_none hc, List.filterMap_nil, List.append_nil]

theorem Select.withClauses_nil (s : Select) : s.withClauses [] = s := by
  simp [withClauses, Call.conditions, Call.last?]

theorem Select.withClauses_append (s : Select) :
    s.withClauses (cs ++ ds) = (s.withClauses cs).withClauses ds := by
  -- a sorting takes the place of the one before it, also where both are called for
  have sort (a b : Option SortTerm) : ((a.or b).map fun t => [t]).getD s.orderBy =
      (a.map fun t => [t]).getD ((b.map fun t => [t]).getD s.orderBy) := by
    cases a <;> rfl
  simp only [withClauses, Call.conditions_append, Call.last?_append, List.filterMap_append,
    List.flatten_append, List.append_assoc, Option.or_assoc, sort]

theorem Statement.withClauses_nil (s : Statement) : s.withClauses [] = s := by
  cases s with
  | select s => exact congrArg Statement.select s.withClauses_nil
  | insert i => rfl
  | update u => simp [withClauses, Call.conditions]
  | delete d => simp [withClauses, Call.conditions]

theorem Statement.withClauses_append (s : Statement) :
    s.withClauses (cs ++ ds) = (s.withClauses cs).withClauses ds := by
  cases s with
  | select s => exact congrArg Statement.select (s.withClauses_append cs ds)
  | insert i => rfl
  | update u => simp only [withClauses, Call.conditions_append]
  | delete d => simp only [withClauses, Call.conditions_append]

end Chain

/-! ### From one call to a chain -/

namespace QueryState

/-- A clause call does what it asks for, and where the statement has no room for it, nothing. -/
theorem call_of_clause {c : Call} (hc : c.clause?.isSome = true) (q : QueryState) :
    (q.call c).state = q.restart (q.statement.withClauses [c]) := by
  obtain ⟨table, statement⟩ := q
  cases statement with
  | select s =>
    cases c with
    | filter _ | join _ | groupBy _ | having _ | orderBy _ | limit _ | offset _ =>
      simp [call, Statement.add?, restart, Statement.withClauses, Select.withClauses,
        Call.conditions, Call.last?, Call.condition?, Call.join?, Call.grouping?, Call.having?,
        Call.sortTerm?, Call.limit?, Call.offset?]
    | _ => cases hc
  | insert i =>
    cases c with
    | filter _ | join _ | groupBy _ | having _ | orderBy _ | limit _ | offset _ => rfl
    | _ => cases hc
  | update u | delete u =>
    cases c with
    | filter _ => rfl
    | join _ | groupBy _ | having _ | orderBy _ | limit _ | offset _ =>
      rw [Statement.withClauses, Call.conditions_of_none rfl]
      rfl
    | _ => cases hc

theorem calls_of_clauses {cs : List Call} (hcs : ∀ c ∈ cs, c.clause?.isSome = true)
    (q : QueryState) : q.calls cs = q.restart (q.statement.withClauses cs) := by
  induction cs generalizing q with
  | nil => rw [Statement.withClauses_nil]; rfl
  | cons c cs ih =>
    obtain ⟨hc, hrest⟩ := List.forall_mem_cons.1 hcs
    rw [calls_cons, call_of_clause hc, ih hrest, ← List.singleton_append (l := cs),
      Statement.withClauses_append]
    rfl

end QueryState

/-! ### The calls of one clause -/

/-- The clause that a method adds to, by its name. -/
def Method.clause? : Method → Option Clause
  | andWhere _ _ _ | orWhere _ _ _ | whereNull _ | whereNotNull _ => some .where
  | join _ _ _ _ | leftJoin _ _ _ _ | rightJoin _ _ _ _ | fullJoin _ _ _ _ => some .join
  | groupBy _ => some .groupBy
  | having _ _ _ => some .having
  | orderBy _ | orderByDesc _ | orderByWith _ _ => some .orderBy
  | limit _ => some .limit
  | offset _ => some .offset
  | table _ | select _ | selectAll | insert _ | insertMany _ | update _ | delete => none

/-- It is the clause of the call that the method makes. -/
theorem Method.clause?_call (m : Method) : m.call.clause? = m.clause? := by
  cases m <;> rfl

/-- The methods of a chain that add to a clause, in order. -/
def Method.part (k : Clause) (ms : List Method) : List Method :=
  ms.filter (·.clause? = some k)

/-- Calls that ask for something under one clause only are found in its part of a chain. -/
theorem Method.filterMap_part {α : Type} {f : Call → Option α} {k : Clause}
    (hf : ∀ c, c.clause? ≠ some k → f c = none) (ms : List Method) :
    ((part k ms).map call).filterMap f = (ms.map call).filterMap f := by
  rw [part, List.filterMap_map, List.filterMap_map, List.filterMap_filter]
  refine List.filterMap_congr fun m _ => ?_
  by_cases hm : m.clause? = some k
  · simp [hm]
  · have hnone : f m.call = none := hf m.call (m.clause?_call ▸ hm)
    simp [hm, hnone]

/-- What chains ask for is the same if the parts of each clause are. -/
theorem Statement.withClauses_eq_of_part {ms ns : List Method}
    (h : ∀ k, Method.part k ms = Method.part k ns) (s : Statement) :
    s.withClauses (ms.map Method.call) = s.withClauses (ns.map Method.call) := by
  have same {α : Type} (f : Call → Option α) (k : Clause)
      (hf : ∀ c, c.clause? ≠ some k → f c = none) :
      (ms.map Method.call).filterMap f = (ns.map Method.call).filterMap f := by
    rw [← Method.filterMap_part hf ms, h k, Method.filterMap_part hf ns]
  have hcondition := same Call.condition? .where fun c => by cases c <;> simp [Call.clause?, Call.condition?]
  have hjoin := same Call.join? .join fun c => by cases c <;> simp [Call.clause?, Call.join?]
  have hgrouping := same Call.grouping? .groupBy fun c => by cases c <;> simp [Call.clause?, Call.grouping?]
  have hhaving := same Call.having? .having fun c => by cases c <;> simp [Call.clause?, Call.having?]
  have hsort := same Call.sortTerm? .orderBy fun c => by cases c <;> simp [Call.clause?, Call.sortTerm?]
  have hlimit := same Call.limit? .limit fun c => by cases c <;> simp [Call.clause?, Call.limit?]
  have hoffset := same Call.offset? .offset fun c => by cases c <;> simp [Call.clause?, Call.offset?]
  cases s <;>
    simp only [withClauses, Select.withClauses, Call.conditions, Call.last?, hcondition, hjoin,
      hgrouping, hhaving, hsort, hlimit, hoffset]

/-! ### Calls that change places -/

/-- A chain with calls of different clauses, one next to the other, that changed places, so many
times. -/
inductive Method.Reordered (ms : List Method) : List Method → Prop
  | refl : Reordered ms ms
  | swap {before after : List Method} {m n : Method} (hmn : m.clause? ≠ n.clause?)
    (h : Reordered ms (before ++ m :: n :: after)) : Reordered ms (before ++ n :: m :: after)

namespace Method.Reordered

variable {ms ns : List Method}

theorem perm (h : Reordered ms ns) : ms.Perm ns := by
  induction h with
  | refl => exact List.Perm.refl ms
  | swap _ _ ih => exact ih.trans (List.Perm.append_left _ (List.Perm.swap _ _ _))

/-- The calls of one clause stay in order. -/
theorem part_eq (h : Reordered ms ns) (k : Clause) : part k ms = part k ns := by
  induction h with
  | refl => rfl
  | @swap before after m n hmn _ ih =>
    rw [ih, part, part, List.filter_append, List.filter_append]
    by_cases hm : m.clause? = some k
    · have hn : n.clause? ≠ some k := fun hn => hmn (hm.trans hn.symm)
      simp [hm, hn]
    · simp [List.filter_cons, hm]

end Method.Reordered

/-- Whatever the query, a chain of clause calls leaves its table and adds to its statement clause by
clause: the calls of a clause count in their order, and only if the statement carries the clause. So
two chains lead to the same query, and to the same text and parameters in either style, if the calls
of each clause are the same in the same order, and in particular if calls of different clauses have
changed places. -/
theorem clause_calls_independent (q : QueryState) (ms : List Method)
    (hms : ∀ m ∈ ms, m.clause?.isSome = true) :
    q.calls (ms.map Method.call) =
        ⟨q.table, q.statement.withClauses (ms.map Method.call)⟩ ∧
      ∀ ns : List Method,
        ((∀ n ∈ ns, n.clause?.isSome = true) ∧ ∀ k, Method.part k ms = Method.part k ns) ∨
          Method.Reordered ms ns →
        q.calls (ms.map Method.call) = q.calls (ns.map Method.call) ∧
          ∀ p, (q.calls (ms.map Method.call)).build p = (q.calls (ns.map Method.call)).build p := by
  have closed {ls : List Method} (hls : ∀ l ∈ ls, l.clause?.isSome = true) :
      q.calls (ls.map Method.call) = q.restart (q.statement.withClauses (ls.map Method.call)) := by
    refine QueryState.calls_of_clauses (List.forall_mem_map.2 fun l hl => ?_) q
    rw [l.clause?_call]
    exact hls l hl
  refine ⟨closed hms, fun ns h => ?_⟩
  have hparts : (∀ n ∈ ns, n.clause?.isSome = true) ∧
      ∀ k, Method.part k ms = Method.part k ns := by
    rcases h with h | h
    · exact h
    · exact ⟨fun n hn => hms n (h.perm.mem_iff.2 hn), h.part_eq⟩
  have heq : q.calls (ms.map Method.call) = q.calls (ns.map Method.call) := by
    rw [closed hms, closed hparts.1, Statement.withClauses_eq_of_part hparts.2]
  exact ⟨heq, fun p => congrArg (·.build p) heq⟩

/-- The clauses of a SELECT in two orders; the second sorting counts, in both. -/
theorem clause_calls_independent_select :
    let paid : Method := .andWhere "paid" .eq (.bool true)
    let ms : List Method := [.orderBy "id", .limit 5, paid, .groupBy ["city"], .orderByDesc "n",
      .orWhere "id" .lt (.int 9), .groupBy ["state"]]
    let ns : List Method := [.groupBy ["city"], .groupBy ["state"], paid, .orderBy "id",
      .orWhere "id" .lt (.int 9), .orderByDesc "n", .limit 5]
    let q := QueryState.forTable "orders"
    ((∀ m ∈ ms, m.clause?.isSome = true) ∧ (∀ n ∈ ns, n.clause?.isSome = true) ∧
        ∀ k, Method.part k ms = Method.part k ns) ∧
      q.calls (ms.map Method.call) = ⟨"orders", .select {
        conditions := [.of .and "paid" .eq (.bool true), .of .or "id" .lt (.int 9)]
        groupBy := ["city", "state"]
        orderBy := [⟨"n", .descending⟩]
        limit := some 5 }⟩ ∧
      q.calls (ms.map Method.call) = q.calls (ns.map Method.call) := by
  intro paid ms ns q
  have hms : ∀ m ∈ ms, m.clause?.isSome = true := by
    simp [ms, paid, Method.clause?]
  have hns : ∀ n ∈ ns, n.clause?.isSome = true := by
    simp [ns, paid, Method.clause?]
  have hparts : ∀ k, Method.part k ms = Method.part k ns := by
    intro k
    cases k <;> rfl
  obtain ⟨hclosed, hsame⟩ := clause_calls_independent q ms hms
  exact ⟨⟨hms, hns, hparts⟩, hclosed, (hsame ns (.inl ⟨hns, hparts⟩)).1⟩

end FluentSql
