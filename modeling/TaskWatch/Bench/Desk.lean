import TaskWatch.Source.Memory

/-! Runs of a task source in memory, call by call.

    Each call is waited for, so time passes by the delay of the call, and what is answered is decided
    at its end. A task is created at once. -/

namespace TaskWatch.Bench

open Source

/-- What is asked of the source, or happens to it. -/
inductive Desk.Step where
  | tasks
  | metrics
  | create (r : Request)
  | fail (message : Option String)
  | snapshot
  | sleep (ms : Nat)

/-- What comes of it. -/
inductive Desk.Outcome where
  | nothing
  | tasks (ts : List Task)
  | metrics (m : Metrics)
  | task (t : Task)
  | fault (f : Fault)

/-- A source and the time at which it stands. -/
structure Desk where
  now : Nat := 0
  /-- What the wall clock shows when the other clock is started. -/
  origin : Time.Stamp := Time.benchStart
  source : Memory
  /-- What was reported and when, the latest first. -/
  log : List (Nat × Log.Line) := []

namespace Desk

/-- What comes of a call, where `f` says what its answer is. -/
def outcomeOf {α : Type} (f : α → Outcome) : Except Fault α → Outcome
  | .ok a => f a
  | .error fault => .fault fault

/-- Lets time pass. -/
def wait (ms : Nat) (d : Desk) : Desk := { d with now := d.now + ms }

/-- Does one step. -/
def step (d : Desk) : Step → Desk × Outcome
  | .tasks => (d.wait d.source.tasksDelay, outcomeOf .tasks d.source.fetchTasks)
  | .metrics => (d.wait d.source.metricsDelay, outcomeOf .metrics d.source.fetchMetrics)
  | .create r =>
    let (source, answer) := d.source.create (.after d.origin d.now 0) r
    let reported := match answer with
      | .ok t => [(d.now, Memory.createdLine t)]
      | .error _ => []
    ({ d with source, log := reported ++ d.log }, outcomeOf .task answer)
  | .fail message => ({ d with source := { d.source with failure := message } }, .nothing)
  | .snapshot => (d, .tasks d.source.tasks)
  | .sleep ms => (d.wait ms, .nothing)

end Desk

end TaskWatch.Bench
