import FluentSql.Proofs.Query.WellFormed

/-! An INSERT written step by step, on the text and the parameters so far. A step may be refused;
and there are operations that stop a program outright where they are misused: dividing by zero,
cutting a list into chunks of none, asserting what is not so. Here such a misuse is a fault, which
ends the writing. The checks in front of these operations keep every fault out, so that the steps
come to what the pieces of the query come to, `render_eq`. -/

namespace FluentSql

/-- The misuse of an operation. -/
inductive Fault where
  | zeroDivisor
  | emptyChunks
  | miscount (params expected : Nat)
  deriving DecidableEq, Repr

/-- What ends a writing early. -/
inductive Halt where
  | refused (e : CompileError)
  | fault (f : Fault)
  deriving DecidableEq, Repr

/-- The heading of an INSERT, up to its values. -/
def Insert.heading (table : String) (i : Insert) : String :=
  "INSERT INTO " ++ table ++ " (" ++ String.intercalate ", " i.columns ++ ") VALUES "

namespace Rendering

/-! ### Operations that can be misused -/

/-- Goes on only if the condition holds. -/
def demand (c : Prop) [Decidable c] (f : Fault) : Except Halt Unit :=
  if c then .ok () else .error (.fault f)

def quotient (n d : Nat) : Except Halt Nat := do
  demand (d ≠ 0) .zeroDivisor
  return n / d

def remainder (n d : Nat) : Except Halt Nat := do
  demand (d ≠ 0) .zeroDivisor
  return n % d

def chunks (width : Nat) (vs : List Value) : Except Halt (List (List Value)) := do
  demand (width ≠ 0) .emptyChunks
  return Compile.rows width vs

/-- The number of records, if the values are whole records. -/
def recordCount (i : Insert) : Except Halt (Option Nat) :=
  if i.columns.isEmpty then return none
  else do
    if (← remainder i.values.length i.columns.length) ≠ 0 then return none
    return some (← quotient i.values.length i.columns.length)

/-! ### Steps -/

/-- A step on the text and the parameters so far. -/
abbrev Step := BuiltQuery → Except Halt BuiltQuery

def push (s : String) : Step := fun b =>
  .ok ⟨b.sql ++ s, b.params⟩

/-- A clause, with a blank before it unless it is the first. -/
def clause (s : String) : Step := fun b =>
  push (if b.sql.isEmpty then s else " " ++ s) b

/-- A placeholder in the text, and its value as the next parameter. -/
def bind (p : Placeholder) : Value → Step
  | .list _, _ => .error (.refused .misplacedList)
  | v, b => .ok ⟨b.sql ++ p.text (b.params.length + 1), b.params ++ [v]⟩

/-- Steps one after the other. -/
def inTurn : List Step → Step
  | [], b => .ok b
  | s :: ss, b => s b >>= inTurn ss

theorem inTurn_singleton (s : Step) : inTurn [s] = s := by
  funext b
  rw [inTurn]
  cases s b <;> rfl

/-- Steps with a comma before each but the first. -/
def commas (ss : List Step) : Step :=
  inTurn (ss.intersperse (push ", "))

/-- Placeholders in parentheses. -/
def group (p : Placeholder) (vs : List Value) : Step :=
  inTurn [push "(", commas (vs.map (bind p)), push ")"]

/-- Asserts the number of parameters. -/
def counted (n : Nat) : Step := fun b => do
  demand (b.params.length = n) (.miscount b.params.length n)
  return b

def insert (p : Placeholder) (table : String) (i : Insert) : Step := fun b =>
  if i.values.isEmpty then .error (.refused .emptyInsert)
  else do
    match ← recordCount i with
    | none => .error (.refused (.raggedInsert i.values.length i.columns.length))
    | some records =>
      let b ← clause (i.heading table) b
      let parts ← chunks i.columns.length i.values
      let b ← commas (parts.map (group p)) b
      counted (records * i.columns.length) b

/-- The steps of an INSERT without its checks. -/
def unchecked (p : Placeholder) (table : String) (i : Insert) : Step :=
  inTurn [push (i.heading table),
    commas ((Compile.rows i.columns.length i.values).map (group p))]

end Rendering

/-- An INSERT rendered from nothing. -/
def Insert.render (p : Placeholder) (table : String) (i : Insert) : Except Halt BuiltQuery :=
  Rendering.insert p table i ⟨"", []⟩

/-! ### What steps write -/

/-- Pieces laid out behind what there is. -/
def BuiltQuery.extend (p : Placeholder) (b : BuiltQuery) (ps : List Piece) : BuiltQuery :=
  ⟨b.sql ++ Piece.layFrom p b.params.length ps, b.params ++ Piece.params ps⟩

@[simp] theorem BuiltQuery.extend_nil (p : Placeholder) (b : BuiltQuery) : b.extend p [] = b := by
  simp [extend, Piece.layFrom, Piece.params]

theorem BuiltQuery.extend_append (p : Placeholder) (b : BuiltQuery) (ps qs : List Piece) :
    b.extend p (ps ++ qs) = (b.extend p ps).extend p qs := by
  simp only [extend, Piece.layFrom_append, Piece.params_append, List.length_append,
    String.append_assoc, List.append_assoc]

theorem BuiltQuery.extend_empty (p : Placeholder) :
    (⟨"", []⟩ : BuiltQuery).extend p = Piece.lay p := by
  funext ps
  simp [extend, Piece.lay]

namespace Rendering

/-- A step does to every text and parameters what a compiled part says: it lays out the pieces, or
is refused as the part is. -/
def Writes (p : Placeholder) (s : Step) (c : Compiled) : Prop :=
  ∀ b, s b = (c.map (b.extend p)).mapError .refused

namespace Writes

variable {p : Placeholder} {s : Step} {c : Compiled}

theorem push (t : String) : Writes p (push t) (Compile.text t) := by
  intro b
  refine congrArg Except.ok (?_ : _ = b.extend p [.text t])
  simp [BuiltQuery.extend, Piece.layFrom, Piece.params]

theorem bind (v : Value) : Writes p (bind p v) (Compile.value v) := by
  intro b
  cases v with
  | list items => rfl
  | _ =>
    refine congrArg Except.ok (?_ : _ = b.extend p [.bind _])
    simp [BuiltQuery.extend, Piece.layFrom, Piece.params]

theorem nil : Writes p (inTurn []) (Compile.join []) := by
  intro b
  exact congrArg Except.ok (b.extend_nil p).symm

/-- One step more, in front of others. -/
theorem cons {ss : List Step} {cs : List Compiled} (hs : Writes p s c)
    (hss : Writes p (inTurn ss) (Compile.join cs)) :
    Writes p (inTurn (s :: ss)) (Compile.join (c :: cs)) := by
  intro b
  rw [inTurn, hs b]
  cases c with
  | error e => rfl
  | ok ps =>
    change inTurn ss (b.extend p ps) = _
    rw [hss, Compile.join]
    cases Compile.join cs with
    | error e => rfl
    | ok qs => exact congrArg Except.ok (b.extend_append p ps qs).symm

theorem singleton (hs : Writes p s c) : Writes p (inTurn [s]) (Compile.join [c]) :=
  hs.cons nil

/-- A loop writes what its turns write, with commas between them. -/
theorem commas {α : Type} {f : α → Step} {g : α → Compiled} (h : ∀ x, Writes p (f x) (g x))
    (xs : List α) : Writes p (commas (xs.map f)) (Compile.commas (xs.map g)) := by
  unfold Rendering.commas Compile.commas
  induction xs with
  | nil => exact nil
  | cons x xs ih =>
    cases xs with
    | nil => exact (h x).singleton
    | cons y ys => exact (h x).cons ((push ", ").cons ih)

theorem group (vs : List Value) : Writes p (group p vs) (Compile.row vs) :=
  (push "(").cons ((commas bind vs).cons (push ")").singleton)

end Writes

end Rendering

/-! ### Parameters -/

theorem Piece.params_flatMap {α : Type} (f : α → List Piece) (xs : List α) :
    params (xs.flatMap f) = xs.flatMap fun x => params (f x) := by
  induction xs with
  | nil => rfl
  | cons x xs ih => rw [List.flatMap_cons, params_append, ih, List.flatMap_cons]

theorem Piece.params_commas (parts : List (List Piece)) :
    params (Writer.pieces.commas parts) = parts.flatMap params := by
  cases parts with
  | nil => rfl
  | cons ps pss =>
    rw [Writer.commas_cons, params_append, params_flatMap]
    rfl

theorem Piece.params_row (vs : List Value) : params (Writer.pieces.row vs) = vs := by
  have cells : params (Writer.pieces.commas (vs.map Writer.pieces.value)) = vs := by
    rw [params_commas, List.flatMap_map]
    exact List.flatMap_singleton' vs
  rw [Writer.row, params_append, params_append, cells]
  exact List.append_nil vs

/-- The parameters of a compiled INSERT are its values, in order. -/
theorem Insert.params_of_compiled {table : String} {i : Insert} {ps : List Piece}
    (h : Compile.insert table i = .ok ps) : Piece.params ps = i.values := by
  obtain ⟨ha, rfl⟩ := (Compile.insert_makes table i).eq_ok_iff.1 h
  rw [Writer.insert, Piece.params_append, Piece.params_commas, List.flatMap_map]
  simp only [Piece.params_row, List.flatMap_id']
  exact (i.accepted_iff.1 ha).flatten_records

/-! ### Faults kept out -/

/-- A count of records covers all the values, and there are columns then. -/
theorem Insert.length_of_recordCount {i : Insert} {n : Nat} (h : i.recordCount? = some n) :
    i.columns.length ≠ 0 ∧ n * i.columns.length = i.values.length := by
  unfold recordCount? at h
  split at h
  next => cases h
  next hn =>
    cases h
    obtain ⟨hc, hm⟩ := not_or.1 hn
    refine ⟨fun h => hc (by simpa using h), ?_⟩
    exact Nat.div_mul_cancel (Nat.dvd_of_mod_eq_zero (Decidable.not_not.1 hm))

namespace Rendering

theorem demand_of {c : Prop} [Decidable c] (h : c) (f : Fault) : demand c f = .ok () :=
  if_pos h

/-- Whether there are columns is asked first, so that nothing is divided by zero. -/
theorem recordCount_eq (i : Insert) : recordCount i = .ok i.recordCount? := by
  unfold recordCount Insert.recordCount?
  cases i.columns with
  | nil => rfl
  | cons c cs =>
    have hw : (c :: cs).length ≠ 0 := Nat.succ_ne_zero _
    simp only [remainder, quotient, demand_of hw]
    by_cases hm : i.values.length % (c :: cs).length = 0
    · simp only [hm]
      rfl
    · exact (if_pos hm).trans (congrArg Except.ok (if_pos (.inr hm)).symm)

theorem clause_first (s : String) : clause s ⟨"", []⟩ = push s ⟨"", []⟩ := by
  simp [clause]

/-- Values are cut only where there are columns. -/
theorem chunks_eq {width : Nat} (h : width ≠ 0) (vs : List Value) :
    chunks width vs = .ok (Compile.rows width vs) := by
  rw [chunks, demand_of h]
  rfl

/-- The assertion holds behind a part of so many parameters. -/
theorem Writes.counted {p : Placeholder} {s : Step} {c : Compiled} {n : Nat} (hs : Writes p s c)
    (hn : ∀ ps, c = .ok ps → (Piece.params ps).length = n) :
    s ⟨"", []⟩ >>= counted n = s ⟨"", []⟩ := by
  rw [hs]
  cases c with
  | error e => rfl
  | ok ps =>
    change Rendering.counted n (BuiltQuery.extend p ⟨"", []⟩ ps) = _
    rw [Rendering.counted, demand_of]
    · rfl
    · exact hn ps rfl

/-- Values in groups write what an INSERT of whole records compiles to. -/
theorem writes_unchecked (p : Placeholder) (table : String) {i : Insert} {n : Nat}
    (hv : i.values.isEmpty = false) (hr : i.recordCount? = some n) :
    Writes p (unchecked p table i) (Compile.insert table i) := by
  have hc : Compile.insert table i = Compile.join [Compile.text (i.heading table),
      Compile.commas ((Compile.rows i.columns.length i.values).map Compile.row)] := by
    simp [Compile.insert, hv, hr, Insert.heading]
  rw [hc]
  exact (Writes.push _).cons (Writes.commas .group _).singleton

/-- Behind the checks there are only the groups and the assertion. -/
theorem insert_of_recordCount (p : Placeholder) (table : String) {i : Insert} {n : Nat}
    (hv : i.values.isEmpty = false) (hr : i.recordCount? = some n) :
    insert p table i ⟨"", []⟩ =
      unchecked p table i ⟨"", []⟩ >>= counted (n * i.columns.length) := by
  have hw := (Insert.length_of_recordCount hr).1
  have hlast : unchecked p table i ⟨"", []⟩ = commas _ ⟨"" ++ i.heading table, []⟩ :=
    congrFun (inTurn_singleton _) _
  rw [insert, hv, recordCount_eq, hr, clause_first, chunks_eq hw, hlast]
  rfl

end Rendering

open Rendering in
/-- The steps of an INSERT meet no fault: they come to what it compiles to. -/
theorem Insert.render_eq (p : Placeholder) (table : String) (i : Insert) :
    i.render p table = ((Compile.insert table i).map (Piece.lay p)).mapError .refused := by
  cases hv : i.values.isEmpty with
  | true =>
    rw [render, Rendering.insert, Compile.insert, hv]
    rfl
  | false =>
    cases hr : i.recordCount? with
    | none =>
      rw [render, Rendering.insert, recordCount_eq, Compile.insert, hv, hr]
      rfl
    | some n =>
      have hw := writes_unchecked p table hv hr
      have hn (ps : List Piece) (h : Compile.insert table i = .ok ps) :
          (Piece.params ps).length = n * i.columns.length := by
        rw [params_of_compiled h, (length_of_recordCount hr).2]
      calc
        i.render p table
          = unchecked p table i ⟨"", []⟩ >>= counted (n * i.columns.length) :=
            insert_of_recordCount p table hv hr
        _ = unchecked p table i ⟨"", []⟩ := hw.counted hn
        _ = ((Compile.insert table i).map (Piece.lay p)).mapError .refused := by
          rw [hw, BuiltQuery.extend_empty]

end FluentSql
