import FluentSql.Proofs.Query.Writer

/-! The normal form of a query: it forgets what is not written, the combinator of a first condition
and the operand of an operator that takes none, and looks for a single value as for the only one of
a list. A query is written as its normal form, `Writer.query_normal`. -/

namespace FluentSql

/-! ### Normal forms -/

/-- The values that an operand is looked for among. -/
def Value.members : Value → List Value
  | .list items => items
  | v => [v]

/-- The operand of an operator as far as it is written. -/
def Operator.normal : Operator → Option Value → Option Value
  | .isNull, _ | .isNotNull, _ => none
  | .isIn, v | .notIn, v => v.map fun v => .list v.members
  | _, v => v

theorem Operator.normal_of_isUnary {o : Operator} (h : o.isUnary = true) (v : Option Value) :
    o.normal v = none := by
  cases o <;> first | rfl | cases h

def Condition.normal (c : Condition) : Condition :=
  { c with value := c.operator.normal c.value }

/-- The normal form of a first condition. -/
def Condition.leading (c : Condition) : Condition :=
  { c.normal with combinator := .and }

def Condition.normalList : List Condition → List Condition
  | [] => []
  | c :: cs => c.leading :: cs.map normal

def Select.normal (s : Select) : Select :=
  { s with
    conditions := Condition.normalList s.conditions
    having := Condition.normalList s.having }

def Update.normal (u : Update) : Update :=
  { u with conditions := Condition.normalList u.conditions }

def Delete.normal (d : Delete) : Delete :=
  ⟨Condition.normalList d.conditions⟩

def Statement.normal : Statement → Statement
  | .select s => .select s.normal
  | .insert i => .insert i
  | .update u => .update u.normal
  | .delete d => .delete d.normal

def QueryState.normal (q : QueryState) : QueryState :=
  { q with statement := q.statement.normal }

/-! ### What is written -/

namespace Writer

variable {α : Type} (w : Writer α)

theorem members_list_members (v : Value) : w.members (.list v.members) = w.members v := by
  cases v with
  | list items => rfl
  | _ => simp [Value.members, members, commas]

theorem condition_normal (c : Condition) : w.condition c.normal = w.condition c := by
  unfold condition Condition.normal
  cases c.operator with
  | isNull | isNotNull => rfl
  | isIn | notIn =>
    cases c.value with
    | none => rfl
    | some v => simp only [Operator.normal, Option.map_some, operand, members_list_members]
  | _ => rfl

theorem condition_leading (c : Condition) : w.condition c.leading = w.condition c :=
  w.condition_normal c

theorem conditions_normalList (keyword : String) (cs : List Condition) :
    w.conditions keyword (Condition.normalList cs) = w.conditions keyword cs := by
  cases cs with
  | nil => rfl
  | cons c cs =>
    simp only [Condition.normalList, conditions, condition_leading, List.flatMap_map,
      condition_normal]
    rfl

/-- A query is written as its normal form. -/
theorem query_normal (q : QueryState) : w.query q.normal = w.query q := by
  unfold query QueryState.normal Statement.normal
  cases q.statement with
  | select s => simp only [select, Select.normal, conditions_normalList]
  | insert i => rfl
  | update u => simp only [update, Update.normal, conditions_normalList]
  | delete d => simp only [delete, Delete.normal, conditions_normalList]

end Writer

end FluentSql
