import FluentSql.Client

/-! Sessions: a client driven by a script, with a report for every step. A step calls the builder,
the client or its manager; one kind of step is a transaction with steps of its own, which ends at
the first of them that fails. A report holds the answer of its step, the state of the manager, and
what was reported and what the driver did since the report before. -/

namespace FluentSql

namespace Session

/-- A single thing to do; `γ` are the commands to whatever plays the database. -/
inductive Action (γ : Type) where
  | call (call : Call)
  /-- A builder call that could not be made. -/
  | refused (error : Error)
  | connect
  | disconnect
  | begin
  | commit
  | rollback
  /-- The query in a style of its own. -/
  | compile (placeholder : Placeholder)
  /-- The query in the manager's style. -/
  | build
  | state
  | execute
  | executeResult
  | query (sql : String) (params : List Value)
  | summary
  | command (command : γ)

inductive Step (γ : Type) where
  | action (a : Action γ)
  /-- Steps in a transaction, which at last fails if a message is given. -/
  | transaction (steps : List (Step γ)) (fail : Option String)

inductive Answer where
  | nothing
  | error (e : Error)
  | built (b : BuiltQuery)
  | state (q : QueryState)
  | rows (rows : List Record)
  | result (r : QueryResult)
  | text (s : String)
  /-- A transaction went through; so many steps were made. -/
  | done (n : Nat)

inductive Report where
  | mk (answer : Answer) (connected inTransaction : Bool) (trace : List String) (log : List Event)
    (steps : Option (List Report))

/-- What a session runs on: a manager, and beside it an overview of its state, the trace of the
database's side, and what commands do. -/
structure Host (μ γ : Type) where
  manager : Manager μ
  summary : μ → String
  trace : μ → List String
  command : γ → μ → μ

/-- A session under way: the client, the events and the length of the trace since the last report,
and the reports of the steps at hand. -/
structure Run (μ : Type) where
  client : Client μ
  pending : List Event := []
  traced : Nat := 0
  reports : List Report := []

variable {μ γ α : Type}

namespace Run

/-- Takes up an outcome of the client; its events wait for the next report. -/
def absorb (r : Run μ) (o : Outcome (Client μ) α) : Except Error α × Run μ :=
  (o.result, { r with client := o.next, pending := r.pending ++ o.events })

/-- Writes a report. -/
def report (h : Host μ γ) (answer : Answer) (steps : Option (List Report)) (r : Run μ) : Run μ :=
  let trace := h.trace r.client.manager
  { r with
    pending := []
    traced := trace.length
    reports := r.reports ++
      [.mk answer (r.client.isConnected h.manager) (r.client.inTransaction h.manager)
        (trace.drop r.traced) r.pending steps] }

/-- Beginning and ending a transaction in the course of a session. -/
def bracket (M : Manager μ) : Bracket (Run μ) where
  begin r := let (a, r) := r.absorb (r.client.begin M); ⟨a, r, []⟩
  commit r := let (a, r) := r.absorb (r.client.commit M); ⟨a, r, []⟩
  rollback r := let (a, r) := r.absorb (r.client.rollback M); ⟨a, r, []⟩

end Run

/-- What a step leads to: its answer, the error that ends a transaction around it, the run to go on
with, and the reports of its own steps. -/
structure Made (μ : Type) where
  answer : Answer
  error : Option Error
  run : Run μ
  inner : Option (List Report) := none

namespace Made

def of (f : α → Answer) : Except Error α × Run μ → Made μ
  | (.ok a, r) => { answer := f a, error := none, run := r }
  | (.error e, r) => { answer := .error e, error := some e, run := r }

def silent (answer : Answer) (r : Run μ) : Made μ :=
  { answer, error := none, run := r }

/-- A transaction; the reports written since it began are those of its steps. -/
def ofTransaction (before : List Report) (o : Outcome (Run μ) Nat) : Made μ :=
  { of .done (o.result, { o.next with reports := before }) with inner := some o.next.reports }

end Made

def act (h : Host μ γ) (a : Action γ) (r : Run μ) : Made μ :=
  let M := h.manager
  let c := r.client
  let nothing (o : Outcome (Client μ) Unit) := Made.of (fun _ => .nothing) (r.absorb o)
  match a with
  | .call k => nothing (c.call k)
  | .refused e => .of .built (.error e, r)
  | .connect => nothing (c.connect M)
  | .disconnect => nothing (c.disconnect M)
  | .begin => nothing (c.begin M)
  | .commit => nothing (c.commit M)
  | .rollback => nothing (c.rollback M)
  | .compile p => .of .built (c.state.build p, r)
  | .build => .of .built (c.build M, r)
  | .state => .silent (.state c.state) r
  | .execute => .of .rows (r.absorb (c.execute M))
  | .executeResult => .of .result (r.absorb (c.executeResult M))
  | .query sql params => .of .result (r.absorb (c.query M sql params))
  | .summary => .silent (.text (h.summary c.manager)) r
  | .command g => .silent .nothing { r with client := { c with manager := h.command g c.manager } }

mutual
/-- Makes a step and reports it; an error is given back as well. -/
def step (h : Host μ γ) (s : Step γ) (r : Run μ) : Option Error × Run μ :=
  let made : Made μ := match s with
    | .action a => act h a r
    | .transaction steps fail =>
      .ofTransaction r.reports
        ((Run.bracket h.manager).transaction (body h steps fail) { r with reports := [] })
  (made.error, made.run.report h made.answer made.inner)

/-- The body of a transaction. -/
def body (h : Host μ γ) (steps : List (Step γ)) (fail : Option String) (r : Run μ) :
    Outcome (Run μ) Nat :=
  match untilError h steps r with
  | (some e, r) => ⟨.error e, r, []⟩
  | (none, r) =>
    ⟨match fail with
      | some m => .error (.validation m)
      | none => .ok steps.length, r, []⟩

/-- Makes steps up to the first that fails. -/
def untilError (h : Host μ γ) : List (Step γ) → Run μ → Option Error × Run μ
  | [], r => (none, r)
  | s :: ss, r =>
    match step h s r with
    | (some e, r) => (some e, r)
    | (none, r) => untilError h ss r
end

/-- Makes all steps, whatever comes of them. -/
def run (h : Host μ γ) (steps : List (Step γ)) (c : Client μ) : Run μ :=
  steps.foldl (fun r s => (step h s r).2)
    { client := c, traced := (h.trace c.manager).length }

end Session

end FluentSql
