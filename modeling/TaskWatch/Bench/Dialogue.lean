import TaskWatch.Source.Server

/-! Runs of a task source that asks a server, call by call. -/

namespace TaskWatch.Bench

open Source

/-- What is asked of the source. -/
inductive Dialogue.Call where
  | tasks
  | metrics
  | create (r : Request)
  /-- The list of tasks, as a cache has it fetched. -/
  | supplyTasks
  /-- The headline numbers, as a cache has them fetched. -/
  | supplyMetrics

/-- What comes of it. -/
inductive Dialogue.Outcome where
  | tasks (ts : List Task)
  | metrics (m : Metrics)
  | task (t : Task)
  | fault (f : Fault)
  /-- The message that a cache is given. -/
  | failed (message : String)

namespace Dialogue

/-- What comes of a call, where `f` says what its answer is and `g` what a fault is. -/
def outcomeOf {α : Type} (f : α → Outcome) (g : Fault → Outcome) : Except Fault α → Outcome
  | .ok a => f a
  | .error fault => g fault

/-- What the server is asked. -/
def Call.asked (s : Server) : Call → Asked
  | .create r => s.askCreate r
  | _ => s.askTasks

/-- What comes of an answer. -/
def Call.outcome (a : Reply) : Call → Outcome
  | .tasks => outcomeOf .tasks .fault a.tasks
  | .metrics => outcomeOf .metrics .fault a.metrics
  | .create _ => outcomeOf .task .fault a.created
  | .supplyTasks => outcomeOf .tasks (fun f => .failed f.message) a.tasks
  | .supplyMetrics => outcomeOf .metrics (fun f => .failed f.message) a.metrics

/-- What the server is asked, with the first line of it, and what comes of its answer. It hears of
    nothing if the address is none. -/
def call (s : Server) (c : Call) (a : Reply) : Option (String × Asked) × Outcome :=
  let asked := c.asked s
  match asked.line? with
  | some line => (some (line, asked), c.outcome a)
  | none => (none, c.outcome .nothing)

end Dialogue

end TaskWatch.Bench
