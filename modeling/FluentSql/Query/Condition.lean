import FluentSql.Error
import FluentSql.Text.Blank
import FluentSql.Value

/-! The parts of a clause: operators, conditions and how they combine, joins and their kinds, sort
terms. An operator is read from its words in either case, however they are spaced. -/

namespace FluentSql

/-! ### Operators -/

inductive Operator where
  | eq
  | ne
  | gt
  | gte
  | lt
  | lte
  | like
  | notLike
  | isIn
  | notIn
  | between
  | isNull
  | isNotNull
  deriving DecidableEq, Repr

namespace Operator

def sql : Operator → String
  | .eq => "="
  | .ne => "<>"
  | .gt => ">"
  | .gte => ">="
  | .lt => "<"
  | .lte => "<="
  | .like => "LIKE"
  | .notLike => "NOT LIKE"
  | .isIn => "IN"
  | .notIn => "NOT IN"
  | .between => "BETWEEN"
  | .isNull => "IS NULL"
  | .isNotNull => "IS NOT NULL"

def all : List Operator :=
  [.eq, .ne, .gt, .gte, .lt, .lte, .like, .notLike, .isIn, .notIn, .between, .isNull, .isNotNull]

/-- Takes no value. -/
def isUnary : Operator → Bool
  | .isNull | .isNotNull => true
  | _ => false

/-- Compares two operands of a row. -/
def isComparison : Operator → Bool
  | .eq | .ne | .gt | .gte | .lt | .lte | .like | .notLike => true
  | _ => false

/-- The spellings that are accepted beside the one that is written. -/
def alias? (s : String) : Option Operator :=
  if s = "==" then some .eq else if s = "!=" then some .ne else none

def ofText (s : String) : Except Error Operator :=
  let spelling := Text.upper (String.intercalate " " (Text.words s))
  match all.find? (fun o => o.sql == spelling) <|> alias? spelling with
  | some o => .ok o
  | none => .error (.unsupported s!"unknown operator '{s}'")

end Operator

/-! ### Conditions -/

inductive Combinator where
  | and
  | or
  deriving DecidableEq, Repr

def Combinator.sql : Combinator → String
  | .and => "AND"
  | .or => "OR"

structure Condition where
  column : String
  operator : Operator
  value : Option Value
  combinator : Combinator

/-- A condition; an operator that takes no value drops it. -/
def Condition.of (combinator : Combinator) (column : String) (operator : Operator) (value : Value) :
    Condition :=
  ⟨column, operator, if operator.isUnary then none else some value, combinator⟩

/-! ### Joins -/

inductive JoinKind where
  | inner
  | left
  | right
  | full
  deriving DecidableEq, Repr

def JoinKind.sql : JoinKind → String
  | .inner => "INNER"
  | .left => "LEFT"
  | .right => "RIGHT"
  | .full => "FULL"

structure Join where
  kind : JoinKind
  table : String
  left : String
  operator : Operator
  right : String
  deriving DecidableEq, Repr

/-! ### Sorting -/

inductive Direction where
  | ascending
  | descending
  deriving DecidableEq, Repr

namespace Direction

def sql : Direction → String
  | .ascending => "ASC"
  | .descending => "DESC"

def ofText (s : String) : Except Error Direction :=
  let spelling := Text.upper (Text.trim s)
  if spelling = "ASC" then .ok .ascending
  else if spelling = "DESC" then .ok .descending
  else .error (.unsupported s!"unknown sort direction '{s}'")

end Direction

structure SortTerm where
  column : String
  direction : Direction
  deriving DecidableEq, Repr

end FluentSql
