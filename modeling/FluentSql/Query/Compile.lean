import FluentSql.Query.Statement

/-! Compiling a query to SQL text and its parameters. A query is first written as a row of pieces,
each of them fixed text or a bound value; no value is looked into but to refuse a list. Laying the
pieces out puts a placeholder for every value and gathers the values in the same order, so that the
n-th placeholder always stands for the n-th parameter. -/

namespace FluentSql

/-- How a backend writes the place of a parameter: `?`, or `$` and its number. -/
inductive Placeholder where
  | question
  | dollar
  deriving DecidableEq, Repr

def Placeholder.text : Placeholder → Nat → String
  | .question, _ => "?"
  | .dollar, n => "$" ++ toString n

structure BuiltQuery where
  sql : String
  params : List Value
  deriving Inhabited

/-! ### Pieces -/

inductive Piece where
  | text (s : String)
  | bind (v : Value)
  deriving Inhabited

namespace Piece

/-- The values among pieces. -/
def params : List Piece → List Value
  | [] => []
  | text _ :: ps => params ps
  | bind v :: ps => v :: params ps

/-- The text of pieces, `n` parameters standing before them. -/
def layFrom (p : Placeholder) (n : Nat) : List Piece → String
  | [] => ""
  | text s :: ps => s ++ layFrom p n ps
  | bind _ :: ps => p.text (n + 1) ++ layFrom p (n + 1) ps

def lay (p : Placeholder) (ps : List Piece) : BuiltQuery :=
  ⟨layFrom p 0 ps, params ps⟩

theorem params_append (ps qs : List Piece) : params (ps ++ qs) = params ps ++ params qs := by
  induction ps with
  | nil => rfl
  | cons p ps ih =>
    cases p with
    | text s => exact ih
    | bind v => exact congrArg (v :: ·) ih

/-- Pieces that stand behind others have their parameters before them. -/
theorem layFrom_append (p : Placeholder) (n : Nat) (ps qs : List Piece) :
    layFrom p n (ps ++ qs) = layFrom p n ps ++ layFrom p (n + (params ps).length) qs := by
  induction ps generalizing n with
  | nil => rw [List.nil_append, layFrom, String.empty_append, params, List.length_nil, Nat.add_zero]
  | cons x ps ih =>
    cases x with
    | text s => rw [List.cons_append, layFrom, layFrom, ih, params, String.append_assoc]
    | bind v =>
      rw [List.cons_append, layFrom, layFrom, ih, params, String.append_assoc, List.length_cons,
        Nat.add_right_comm, Nat.add_assoc]

end Piece

/-! ### Refusals -/

inductive CompileError where
  | blankTable
  | joinOperator (operator : Operator) (table column : String)
  | emptyInsert
  | raggedInsert (values columns : Nat)
  | emptyUpdate
  | missingValue (operator : Operator) (column : String)
  | betweenOperand (column kind : String)
  | misplacedList
  deriving DecidableEq, Repr

def CompileError.message : CompileError → String
  | .blankTable => "a table name is required"
  | .joinOperator o t c => s!"operator {o.sql} cannot join {t} on {c}"
  | .emptyInsert => "INSERT requires at least one value"
  | .raggedInsert v c => s!"INSERT has {v} values for {c} columns; not a whole number of records"
  | .emptyUpdate => "UPDATE requires at least one column to set"
  | .missingValue o c => s!"operator {o.sql} on '{c}' requires a value"
  | .betweenOperand c k => s!"BETWEEN on '{c}' requires a two-element list, got {k}"
  | .misplacedList => "list values are only allowed with IN, NOT IN and BETWEEN"

abbrev Compiled := Except CompileError (List Piece)

namespace Compile

/-! ### Values -/

def value : Value → Compiled
  | .list _ => .error .misplacedList
  | v => .ok [.bind v]

/-- Compiled parts one after the other; the first refusal counts. -/
def join : List Compiled → Compiled
  | [] => .ok []
  | c :: cs => do
    let ps ← c
    let qs ← join cs
    return ps ++ qs

def text (s : String) : Compiled :=
  .ok [.text s]

/-- Parts with commas between them. -/
def commas (cs : List Compiled) : Compiled :=
  join (cs.intersperse (text ", "))

/-! ### Conditions -/

/-- The operand of an operator, with what stands around it. -/
def operand (column : String) : Operator → Value → Compiled
  | .isIn, v | .notIn, v =>
    join [text " (",
      match v with
      | .list [] => text "NULL"
      | .list items => commas (items.map value)
      | v => value v,
      text ")"]
  | .between, .list [low, high] => join [text " ", value low, text " AND ", value high]
  | .between, v => .error (.betweenOperand column v.kindName)
  | _, v => join [text " ", value v]

def condition (c : Condition) : Compiled :=
  let head := text (c.column ++ " " ++ c.operator.sql)
  if c.operator.isUnary then head
  else join [head,
    match c.value with
    | none => .error (.missingValue c.operator c.column)
    | some v => operand c.column c.operator v]

/-- Conditions behind a keyword, each further one behind its own combinator. -/
def conditions (keyword : String) : List Condition → Compiled
  | [] => .ok []
  | c :: cs =>
    join (text (" " ++ keyword ++ " ") :: condition c ::
      cs.flatMap fun c => [text (" " ++ c.combinator.sql ++ " "), condition c])

/-! ### Statements -/

def joinClause (j : Join) : Compiled :=
  if j.operator.isComparison then
    text s!" {j.kind.sql} JOIN {j.table} ON {j.left} {j.operator.sql} {j.right}"
  else .error (.joinOperator j.operator j.table j.left)

/-- A clause of a list of terms, left out when there are none. -/
def listClause (keyword : String) (terms : List String) : Compiled :=
  if terms.isEmpty then .ok [] else text (" " ++ keyword ++ " " ++ String.intercalate ", " terms)

/-- A clause of a number. -/
def numberClause (keyword : String) : Option UInt64 → Compiled
  | none => .ok []
  | some n => text (" " ++ keyword ++ " " ++ toString n.toNat)

def select (table : String) (s : Select) : Compiled :=
  join [text ("SELECT " ++ String.intercalate ", " s.columns ++ " FROM " ++ table),
    join (s.joins.map joinClause),
    conditions "WHERE" s.conditions,
    listClause "GROUP BY" s.groupBy,
    conditions "HAVING" s.having,
    listClause "ORDER BY" (s.orderBy.map fun t => t.column ++ " " ++ t.direction.sql),
    numberClause "LIMIT" s.limit,
    numberClause "OFFSET" s.offset]

/-- Values cut into rows of `width`. -/
def rows (width : Nat) (vs : List Value) : List (List Value) :=
  if _h : width = 0 ∨ vs = [] then []
  else vs.take width :: rows width (vs.drop width)
termination_by vs.length
decreasing_by
  simp only [not_or] at _h
  have := List.length_pos_iff.2 _h.2
  simp only [List.length_drop]
  omega

/-- A row of values in parentheses. -/
def row (vs : List Value) : Compiled :=
  join [text "(", commas (vs.map value), text ")"]

def insert (table : String) (i : Insert) : Compiled :=
  if i.values.isEmpty then .error .emptyInsert
  else match i.recordCount? with
    | none => .error (.raggedInsert i.values.length i.columns.length)
    | some _ =>
      let columns := String.intercalate ", " i.columns
      join [text ("INSERT INTO " ++ table ++ " (" ++ columns ++ ") VALUES "),
        commas ((rows i.columns.length i.values).map row)]

def assignment (column : String) (v : Value) : Compiled :=
  join [text (column ++ " = "), value v]

def update (table : String) (u : Update) : Compiled :=
  if u.payload.isEmpty then .error .emptyUpdate
  else join [text s!"UPDATE {table} SET ",
    commas (u.payload.entries.map fun (c, v) => assignment c v),
    conditions "WHERE" u.conditions]

def delete (table : String) (d : Delete) : Compiled :=
  join [text ("DELETE FROM " ++ table), conditions "WHERE" d.conditions]

end Compile

namespace QueryState

/-- The pieces of a query. -/
def pieces (q : QueryState) : Compiled :=
  if Text.blank q.table then .error .blankTable
  else match q.statement with
    | .select s => Compile.select q.table s
    | .insert i => Compile.insert q.table i
    | .update u => Compile.update q.table u
    | .delete d => Compile.delete q.table d

/-- The SQL text and the parameters of a query. -/
def compile (p : Placeholder) (q : QueryState) : Except CompileError BuiltQuery :=
  Piece.lay p <$> q.pieces

/-- The same, with a refusal as an error of the library. -/
def build (p : Placeholder) (q : QueryState) : Except Error BuiltQuery :=
  (q.compile p).mapError fun e => .validation e.message

end QueryState

end FluentSql
