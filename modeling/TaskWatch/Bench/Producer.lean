import TaskWatch.Cache.Fetch

/-! Producers that follow a script or wait at a gate, and count their calls.

    A scripted producer gives its answers one after another and then repeats the last. A gated one
    answers a call when it is told to. Calls are numbered from zero in the order in which they are
    made, and a call ends when it is answered or when nobody waits for it any more. -/

namespace TaskWatch.Bench

/-- How a producer answers a call. -/
inductive Answer (α : Type) where
  | ok (a : α)
  | err (message : String)
  /-- The producer breaks down. -/
  | breakdown

/-- What the answer amounts to for whoever called. -/
def Answer.result {α : Type} : Answer α → Except String α
  | .ok a => .ok a
  | .err message => .error message
  | .breakdown => .error Cache.brokeDown

/-- An answer and how many milliseconds it takes. -/
structure Turn (α : Type) where
  answer : Answer α
  delay : Nat := 0

/-- Where a gated call stands. -/
inductive Gate (α : Type) where
  | waiting
  | told (result : Except String α)
  /-- The call has ended. -/
  | spent

/-- Counts of calls. -/
structure Probe where
  calls : Nat := 0
  /-- Calls that have not ended. -/
  running : Nat := 0
  /-- The most calls that ever ran at once. -/
  most : Nat := 0
  deriving DecidableEq, Repr

/-- A call begins. -/
def Probe.enter (p : Probe) : Probe :=
  { calls := p.calls + 1, running := p.running + 1, most := max p.most (p.running + 1) }

/-- A call ends. -/
def Probe.leave (p : Probe) : Probe := { p with running := p.running - 1 }

/-- Where a producer takes its answers from. -/
inductive Supply (α : Type) where
  | script (turns : List (Turn α))
  | gated

/-- A producer that counts its calls. -/
structure Producer (α : Type) where
  supply : Supply α
  probe : Probe := {}
  gates : List (Gate α) := []

/-- What a scripted producer says when it has no script. -/
def exhausted : String := "script exhausted"

namespace Producer

variable {α : Type}

/-- The turn of a script that answers a call. -/
def turnOf (turns : List (Turn α)) (call : Nat) : Turn α :=
  turns.getD (min call (turns.length - 1)) { answer := .err exhausted }

/-- Changes one gate. -/
def setGate (p : Producer α) (call : Nat) (g : Gate α) : Producer α :=
  { p with gates := p.gates.set call g }

/-- Makes a call. The answer is the number of the call and how long it takes, if that is known. -/
def call (p : Producer α) : Producer α × Nat × Option Nat :=
  let number := p.probe.calls
  let entered := { p with probe := p.probe.enter }
  match p.supply with
  | .script turns => (entered, number, some (turnOf turns number).delay)
  | .gated => ({ entered with gates := p.gates ++ [.waiting] }, number, none)

/-- The answer to a call. -/
def reply (p : Producer α) (call : Nat) : Except String α :=
  match p.supply with
  | .script turns => (turnOf turns call).answer.result
  | .gated =>
    match p.gates[call]? with
    | some (.told r) => r
    | _ => .error "gate dropped"

/-- Ends a call. -/
def finish (p : Producer α) (call : Nat) : Producer α :=
  { p with probe := p.probe.leave }.setGate call .spent

/-- Answers a gated call. That works once, and only while the call runs. -/
def resolve (p : Producer α) (call : Nat) (r : Except String α) : Producer α × Bool :=
  match p.gates[call]? with
  | some .waiting => (p.setGate call (.told r), true)
  | _ => (p, false)

end Producer

end TaskWatch.Bench
