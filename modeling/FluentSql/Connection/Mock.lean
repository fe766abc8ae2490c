import FluentSql.Connection.Pooled
import FluentSql.Session

/-! A driver without a database. It writes down every call, fails those it is told to fail, answers
every read with the same rows and every write with the number of its parameters. Handles are
numbered in the order in which they were asked for. -/

namespace FluentSql

structure Mock where
  /-- The calls so far, in order. -/
  log : List String := []
  /-- The names of the calls that fail. -/
  failing : List String := []
  rows : List Record := []
  /-- How often a handle was asked for. -/
  handles : Nat := 0

namespace Mock

/-- Writes a call down, and fails it or lets it give `a`. -/
def call {α : Type} (name entry : String) (a : α) : DriverCall Mock α := fun w =>
  (if w.failing.contains name then .error ⟨name ++ " exploded"⟩ else .ok a,
    { w with log := w.log ++ [entry] })

/-- A call on a handle. -/
def callOn (name : String) (h : Nat) : DriverCall Mock Unit :=
  call name (name ++ " " ++ toString h) ()

def answer (sql : String) (params : List Value) (w : Mock) : RawOutput :=
  match Access.ofSql sql with
  | .read => .read w.rows
  | .write => .write (UInt64.ofNat params.length)

def driver (name : String) (placeholder : Placeholder) : PoolDriver Mock Unit Nat where
  name := name
  placeholder := placeholder
  openPool := call "open" "open" ()
  acquire _ w :=
    let h := w.handles + 1
    call "acquire" ("acquire " ++ toString h) h { w with handles := h }
  execute h sql params w :=
    call "execute" s!"execute {h}: {sql}" (answer sql params w) w
  begin := callOn "begin"
  commit := callOn "commit"
  rollback := callOn "rollback"
  release h w := (callOn "release" h w).2
  close _ := call "close" "close" ()

/-- What can be told to a mock while it is in use. -/
inductive Command where
  | failOn (calls : List String)
  | heal
  | rows (rows : List Record)

def obey (c : Command) (w : Mock) : Mock :=
  match c with
  | .failOn calls => { w with failing := w.failing ++ calls }
  | .heal => { w with failing := [] }
  | .rows rows => { w with rows }

/-- A manager that opens its pool itself, or has been handed one. -/
def start (shared : Bool) : Pooled.World Mock Unit Nat :=
  (if shared then .ofPool () else {}, {})

/-- Sessions on a mock. -/
def host (name : String) (placeholder : Placeholder) :
    Session.Host (Pooled.World Mock Unit Nat) Command where
  manager := Pooled.manager (driver name placeholder)
  summary m := m.1.summary name
  trace m := m.2.log
  command c m := (m.1, obey c m.2)

end Mock

end FluentSql
