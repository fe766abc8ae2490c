import FluentSql.Query.Compile

/-! Writing a query down, with every operand at its own place. How texts and values are written is
left open: with values as literals this is the query as a person would write it, with pieces it is
what an accepted query compiles to. Writing in one way and then replacing every element is writing
in another way, `flatMap_query`. -/

namespace FluentSql

/-- A way to write texts and values down, as elements of some type. -/
structure Writer (α : Type) where
  text : String → List α
  value : Value → List α

namespace Writer

variable {α β : Type}

/-- Texts as they are, values as literals. -/
def literal (f : Value → String) : Writer Char :=
  ⟨String.toList, fun v => (f v).toList⟩

/-- Texts and values as pieces. -/
def pieces : Writer Piece :=
  ⟨fun s => [.text s], fun v => [.bind v]⟩

/-- The same writing with every element replaced. -/
def replace (w : Writer α) (f : α → List β) : Writer β :=
  ⟨fun s => (w.text s).flatMap f, fun v => (w.value v).flatMap f⟩

variable (w : Writer α)

/-- Parts with commas between them. -/
def commas (parts : List (List α)) : List α :=
  (parts.intersperse (w.text ", ")).flatten

theorem commas_cons (part : List α) (parts : List (List α)) :
    w.commas (part :: parts) = part ++ parts.flatMap (w.text ", " ++ ·) := by
  unfold commas
  induction parts generalizing part with
  | nil => simp
  | cons next parts ih =>
    rw [List.intersperse_cons_cons, List.flatten_cons, List.flatten_cons, ih, List.flatMap_cons,
      List.append_assoc]

theorem literal_commas (f : Value → String) (ss : List String) :
    (literal f).commas (ss.map String.toList) = (String.intercalate ", " ss).toList := by
  rw [String.toList_intercalate]
  rfl

/-! ### Conditions -/

/-- What an operand is looked for among. -/
def members : Value → List α
  | .list [] => w.text "NULL"
  | .list items => w.commas (items.map w.value)
  | v => w.value v

/-- The operand of an operator, with what stands around it. -/
def operand : Operator → Value → List α
  | .isIn, v | .notIn, v => w.text " (" ++ w.members v ++ w.text ")"
  | .between, .list [low, high] => w.text " " ++ w.value low ++ w.text " AND " ++ w.value high
  | _, v => w.text " " ++ w.value v

def condition (c : Condition) : List α :=
  w.text (c.column ++ " " ++ c.operator.sql) ++
    if c.operator.isUnary then [] else (c.value.map (w.operand c.operator)).getD []

def conditions (keyword : String) : List Condition → List α
  | [] => []
  | c :: cs =>
    w.text (" " ++ keyword ++ " ") ++ w.condition c ++
      cs.flatMap fun c => w.text (" " ++ c.combinator.sql ++ " ") ++ w.condition c

/-! ### Statements -/

def joinClause (j : Join) : List α :=
  w.text s!" {j.kind.sql} JOIN {j.table} ON {j.left} {j.operator.sql} {j.right}"

def listClause (keyword : String) (terms : List String) : List α :=
  if terms.isEmpty then [] else w.text (" " ++ keyword ++ " " ++ String.intercalate ", " terms)

def numberClause (keyword : String) : Option UInt64 → List α
  | none => []
  | some n => w.text (" " ++ keyword ++ " " ++ toString n.toNat)

def select (table : String) (s : Select) : List α :=
  w.text ("SELECT " ++ String.intercalate ", " s.columns ++ " FROM " ++ table) ++
    s.joins.flatMap w.joinClause ++
    w.conditions "WHERE" s.conditions ++
    w.listClause "GROUP BY" s.groupBy ++
    w.conditions "HAVING" s.having ++
    w.listClause "ORDER BY" (s.orderBy.map fun t => t.column ++ " " ++ t.direction.sql) ++
    w.numberClause "LIMIT" s.limit ++
    w.numberClause "OFFSET" s.offset

/-- The values of each record, `width` of them. -/
def records (width : Nat) (values : List Value) : List (List Value) :=
  (List.range (values.length / width)).map fun r => (values.drop (r * width)).take width

def row (values : List Value) : List α :=
  w.text "(" ++ w.commas (values.map w.value) ++ w.text ")"

def insert (table : String) (i : Insert) : List α :=
  w.text ("INSERT INTO " ++ table ++ " (" ++ String.intercalate ", " i.columns ++ ") VALUES ") ++
    w.commas ((records i.columns.length i.values).map w.row)

def assignment (column : String) (v : Value) : List α :=
  w.text (column ++ " = ") ++ w.value v

def update (table : String) (u : Update) : List α :=
  w.text s!"UPDATE {table} SET " ++
    w.commas (u.payload.entries.map fun (c, v) => w.assignment c v) ++
    w.conditions "WHERE" u.conditions

def delete (table : String) (d : Delete) : List α :=
  w.text ("DELETE FROM " ++ table) ++ w.conditions "WHERE" d.conditions

def query (q : QueryState) : List α :=
  match q.statement with
  | .select s => w.select q.table s
  | .insert i => w.insert q.table i
  | .update u => w.update q.table u
  | .delete d => w.delete q.table d

/-- A query is written with the word of its kind first, and a blank behind it. -/
theorem query_eq_kind (q : QueryState) :
    ∃ more rest, w.query q = w.text (q.kind.sql ++ (" " ++ more)) ++ rest := by
  have hselect : "SELECT " = "SELECT" ++ " " := rfl
  have hinsert : "INSERT INTO " = "INSERT" ++ (" " ++ "INTO ") := rfl
  have hupdate : "UPDATE " = "UPDATE" ++ " " := rfl
  have hdelete : "DELETE FROM " = "DELETE" ++ (" " ++ "FROM ") := rfl
  obtain ⟨table, s⟩ := q
  cases s with
  | select s =>
    simp only [query, select, hselect, String.append_assoc, List.append_assoc]
    exact ⟨_, _, rfl⟩
  | insert i =>
    simp only [query, insert, hinsert, String.append_assoc]
    exact ⟨_, _, rfl⟩
  | update u =>
    simp only [query, update, hupdate, String.append_assoc, List.append_assoc]
    exact ⟨_, _, rfl⟩
  | delete d =>
    simp only [query, delete, hdelete, String.append_assoc]
    exact ⟨_, _, rfl⟩

/-! ### Replacing what was written -/

section Replace

variable (f : α → List β)

theorem flatMap_commas (parts : List (List α)) :
    (w.commas parts).flatMap f = (w.replace f).commas (parts.map (List.flatMap f)) := by
  cases parts with
  | nil => rfl
  | cons p ps =>
    rw [List.map_cons, commas_cons, commas_cons, List.flatMap_append, List.flatMap_assoc,
      List.flatMap_map]
    simp only [List.flatMap_append]
    rfl

theorem flatMap_members (v : Value) : (w.members v).flatMap f = (w.replace f).members v := by
  cases v with
  | list items =>
    cases items with
    | nil => rfl
    | cons v vs =>
      simp only [members, flatMap_commas, List.map_map]
      rfl
  | _ => rfl

theorem flatMap_operand (o : Operator) (v : Value) :
    (w.operand o v).flatMap f = (w.replace f).operand o v := by
  fun_cases operand w o v <;>
    simp_all [operand, flatMap_members, replace]

theorem flatMap_condition (c : Condition) :
    (w.condition c).flatMap f = (w.replace f).condition c := by
  unfold condition
  cases c.operator.isUnary <;> cases c.value <;> simp [flatMap_operand, replace]

theorem flatMap_conditions (keyword : String) (cs : List Condition) :
    (w.conditions keyword cs).flatMap f = (w.replace f).conditions keyword cs := by
  cases cs with
  | nil => rfl
  | cons c cs =>
    simp only [conditions, List.flatMap_append, List.flatMap_assoc, flatMap_condition]
    rfl

theorem flatMap_listClause (keyword : String) (terms : List String) :
    (w.listClause keyword terms).flatMap f = (w.replace f).listClause keyword terms := by
  unfold listClause
  split <;> rfl

theorem flatMap_numberClause (keyword : String) (n : Option UInt64) :
    (w.numberClause keyword n).flatMap f = (w.replace f).numberClause keyword n := by
  cases n <;> rfl

theorem flatMap_rows (rs : List (List Value)) :
    (w.commas (rs.map w.row)).flatMap f = (w.replace f).commas (rs.map (w.replace f).row) := by
  have row (vs : List Value) : (w.row vs).flatMap f = (w.replace f).row vs := by
    simp only [row, List.flatMap_append, flatMap_commas, List.map_map]
    rfl
  simp only [flatMap_commas, List.map_map, Function.comp_def, row]

/-- Replacing every element of a query that was written down. -/
theorem flatMap_query (q : QueryState) : (w.query q).flatMap f = (w.replace f).query q := by
  unfold query
  cases q.statement with
  | select s =>
    simp only [select, List.flatMap_append, List.flatMap_assoc, flatMap_conditions,
      flatMap_listClause, flatMap_numberClause]
    rfl
  | insert i =>
    simp only [insert, List.flatMap_append, flatMap_rows]
    rfl
  | update u =>
    simp only [update, List.flatMap_append, flatMap_commas, List.map_map, Function.comp_def,
      flatMap_conditions, assignment]
    rfl
  | delete d =>
    simp only [delete, List.flatMap_append, flatMap_conditions]
    rfl

end Replace

end Writer

end FluentSql
