import TaskWatch.Log.Line
import TaskWatch.Source.Fault
import TaskWatch.Task.Basic
import TaskWatch.Text.Digits
import TaskWatch.Time.Instant

/-! A task source that keeps its tasks in memory and answers after a fixed delay.

    What is answered is decided at the end of the delay. A source can be told to fail, and then every
    call fails until it is told otherwise. New tasks are numbered on from the number of tasks that
    the source began with. -/

namespace TaskWatch.Source

/-- A task source in memory. -/
structure Memory where
  tasks : List Task := sampleTasks
  nextId : Nat := sampleTasks.length + 1
  /-- Milliseconds until a list of tasks is answered. -/
  tasksDelay : Nat := 1003
  /-- Milliseconds until headline numbers are answered. -/
  metricsDelay : Nat := 503
  /-- What every call fails with. -/
  failure : Option String := none
  /-- How often a task was asked for. -/
  createCalls : Nat := 0

namespace Memory

/-- A source that begins with the given tasks. -/
def ofTasks (tasks : List Task) (tasksDelay metricsDelay : Nat) : Memory :=
  { tasks, nextId := tasks.length + 1, tasksDelay, metricsDelay }

/-- The answer that a call gives, unless the source is to fail. -/
def guarded {α : Type} (m : Memory) (a : α) : Except Fault α :=
  match m.failure with
  | some message => .error (.unavailable message)
  | none => .ok a

/-- The tasks, as they are answered at the end of the delay. -/
def fetchTasks (m : Memory) : Except Fault (List Task) := m.guarded m.tasks

/-- The headline numbers, as they are answered at the end of the delay. -/
def fetchMetrics (m : Memory) : Except Fault Metrics := m.guarded (Metrics.ofTasks m.tasks)

/-- The id that a new task is given. -/
def freshId (m : Memory) : String := "ts_" ++ toString m.nextId

/-- Creates a task at once. -/
def create (now : Time.Instant) (r : Request) (m : Memory) : Memory × Except Fault Task :=
  let called := { m with createCalls := m.createCalls + 1 }
  match m.failure with
  | some message => (called, .error (.unavailable message))
  | none =>
    let task := r.toTask m.freshId now.wall
    ({ called with tasks := m.tasks ++ [task], nextId := m.nextId + 1 }, .ok task)

/-- The line that reports a new task. -/
def createdLine (t : Task) : Log.Line := .source .debug "mock task created" [("task_id", t.id)]

end Memory

end TaskWatch.Source
