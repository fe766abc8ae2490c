import FluentSql.Query.Compile

/-! Building a query by a chain of calls. A call that names a statement starts it afresh and keeps
only the table; a clause call adds to the statement at hand, and where that statement cannot carry
the clause, the call changes nothing and is reported. -/

namespace FluentSql

/-- The clauses that not every statement can carry. -/
inductive Clause where
  | where
  | join
  | groupBy
  | having
  | orderBy
  | limit
  | offset
  deriving DecidableEq, Repr

def Clause.sql : Clause → String
  | .where => "WHERE"
  | .join => "JOIN"
  | .groupBy => "GROUP BY"
  | .having => "HAVING"
  | .orderBy => "ORDER BY"
  | .limit => "LIMIT"
  | .offset => "OFFSET"

/-- A clause that was called for on a statement that cannot carry it. -/
structure IgnoredClause where
  clause : Clause
  kind : StatementKind
  deriving DecidableEq, Repr

/-- The calls of the chain that change a query. -/
inductive Call where
  | table (name : String)
  | select (columns : List String)
  | insert (pairs : List (String × Value))
  | insertMany (records : List Record)
  | update (pairs : List (String × Value))
  | delete
  | filter (condition : Condition)
  | join (join : Join)
  | groupBy (columns : List String)
  | having (condition : Condition)
  | orderBy (term : SortTerm)
  | limit (n : UInt64)
  | offset (n : UInt64)

namespace Call

def andWhere (column : String) (operator : Operator) (value : Value) : Call :=
  .filter (.of .and column operator value)

def orWhere (column : String) (operator : Operator) (value : Value) : Call :=
  .filter (.of .or column operator value)

def whereNull (column : String) : Call :=
  .filter (.of .and column .isNull .null)

def whereNotNull (column : String) : Call :=
  .filter (.of .and column .isNotNull .null)

def havingAnd (column : String) (operator : Operator) (value : Value) : Call :=
  .having (.of .and column operator value)

/-- The clause that a call adds to. -/
def clause? : Call → Option Clause
  | filter _ => some .where
  | join _ => some .join
  | groupBy _ => some .groupBy
  | having _ => some .having
  | orderBy _ => some .orderBy
  | limit _ => some .limit
  | offset _ => some .offset
  | _ => none

end Call

/-! ### Many records at once -/

inductive InsertError where
  | noRecord
  | columnCount (index found expected : Nat)
  | missingColumn (index : Nat) (column : String)
  deriving DecidableEq, Repr

def InsertError.message : InsertError → String
  | .noRecord => "insert_many requires at least one record"
  | .columnCount i n m => s!"record {i} has {n} columns, expected {m}"
  | .missingColumn i c => s!"record {i} is missing column '{c}'"

namespace Insert

/-- One record as it is. -/
def ofPairs (pairs : List (String × Value)) : Insert :=
  ⟨pairs.map Prod.fst, pairs.map Prod.snd⟩

/-- The values of a record in the order of some columns. -/
def valuesOf (index : Nat) (r : Record) : List String → Except InsertError (List Value)
  | [] => .ok []
  | c :: cs =>
    match r.get? c with
    | none => .error (.missingColumn index c)
    | some v => do
      let vs ← valuesOf index r cs
      return v :: vs

/-- The values of records numbered from `index`, each of which has to have exactly the columns. -/
def valuesOfAll (columns : List String) (index : Nat) :
    List Record → Except InsertError (List Value)
  | [] => .ok []
  | r :: rs => do
    if r.size ≠ columns.length then
      throw (.columnCount index r.size columns.length)
    let vs ← valuesOf index r columns
    let ws ← valuesOfAll columns (index + 1) rs
    return vs ++ ws

/-- Records under the columns of the first. -/
def ofRecords : List Record → Except InsertError Insert
  | [] => .error .noRecord
  | r :: rs => do
    let values ← valuesOfAll r.keys 0 (r :: rs)
    return ⟨r.keys, values⟩

end Insert

/-! ### The chain -/

namespace Statement

/-- Adds to the clauses of a statement; nothing if it cannot carry the clause. -/
def add? (s : Statement) (c : Call) : Option Statement :=
  match c, s with
  | .filter d, .select s => some (.select { s with conditions := s.conditions ++ [d] })
  | .filter d, .update u => some (.update { u with conditions := u.conditions ++ [d] })
  | .filter d, .delete e => some (.delete { e with conditions := e.conditions ++ [d] })
  | .join j, .select s => some (.select { s with joins := s.joins ++ [j] })
  | .groupBy cs, .select s => some (.select { s with groupBy := s.groupBy ++ cs })
  | .having d, .select s => some (.select { s with having := s.having ++ [d] })
  | .orderBy t, .select s => some (.select { s with orderBy := [t] })
  | .limit n, .select s => some (.select { s with limit := some n })
  | .offset n, .select s => some (.select { s with offset := some n })
  | _, _ => none

end Statement

/-- What a call leaves behind: the query, the clause it ignored, and why it was refused. -/
structure CallResult where
  state : QueryState
  ignored : Option IgnoredClause := none
  error : Option InsertError := none

/-- What the caller is told. -/
def CallResult.result (r : CallResult) : Except Error Unit :=
  match r.error with
  | some e => .error (.validation e.message)
  | none => .ok ()

namespace QueryState

/-- A select of columns, all of them if none is named. -/
def selecting (q : QueryState) (columns : List String) : QueryState :=
  q.restart (.select (if columns.isEmpty then {} else { columns }))

def call (q : QueryState) (c : Call) : CallResult :=
  match c with
  | .table name => ⟨forTable name, none, none⟩
  | .select columns => ⟨q.selecting columns, none, none⟩
  | .insert pairs => ⟨q.restart (.insert (.ofPairs pairs)), none, none⟩
  | .insertMany records =>
    match Insert.ofRecords records with
    | .ok i => ⟨q.restart (.insert i), none, none⟩
    | .error e => ⟨q, none, some e⟩
  | .update pairs => ⟨q.restart (.update { payload := .ofPairs pairs }), none, none⟩
  | .delete => ⟨q.restart (.delete {}), none, none⟩
  | c =>
    match q.statement.add? c with
    | some s => ⟨q.restart s, none, none⟩
    | none => ⟨q, c.clause?.map (⟨·, q.kind⟩), none⟩

/-- The query after a chain of calls. -/
def calls (q : QueryState) (cs : List Call) : QueryState :=
  cs.foldl (fun q c => (q.call c).state) q

end QueryState

end FluentSql
