import TaskWatch.Task.Kind
import TaskWatch.Task.Status
import TaskWatch.Time.Stamp

/-! Tasks, the headline numbers drawn from a list of them, and requests for new ones. -/

namespace TaskWatch

/-- A scheduled unit of work. -/
structure Task where
  id : String
  name : String
  kind : Kind
  status : Status
  /-- From 1, the lowest, to 10, the highest. -/
  priority : UInt8
  retries : UInt32
  created : Time.Stamp
  deriving DecidableEq, Repr

/-- The headline numbers of a board. -/
structure Metrics where
  total : UInt32
  running : UInt32
  completed : UInt32
  failed : UInt32
  deriving DecidableEq, Repr

/-- How many of the tasks have the status. -/
def countStatus (tasks : List Task) (s : Status) : Nat :=
  (tasks.filter (fun t => t.status == s)).length

/-- The headline numbers of the tasks. Every completed task counts, whenever it was completed. -/
def Metrics.ofTasks (tasks : List Task) : Metrics :=
  { total := UInt32.ofNat tasks.length
    running := UInt32.ofNat (countStatus tasks .running)
    completed := UInt32.ofNat (countStatus tasks .completed)
    failed := UInt32.ofNat (countStatus tasks .failed) }

/-- What is asked for when a task is to be created. -/
structure Request where
  name : String
  kind : Kind
  priority : UInt8
  deriving DecidableEq, Repr

/-- The task that a request becomes: it waits, and nothing was retried. -/
def Request.toTask (r : Request) (id : String) (created : Time.Stamp) : Task :=
  { id, name := r.name, kind := r.kind, status := .pending, priority := r.priority,
    retries := 0, created }

/-- Five tasks that show every status. -/
def sampleTasks : List Task :=
  let on (hour minute : Nat) := Time.Stamp.civil 2025 9 1 hour minute 0
  [ ⟨"ts_1", "Send Welcome Email", .email, .completed, 5, 0, on 10 0⟩,
    ⟨"ts_2", "Generate Daily Report", .report, .running, 8, 1, on 11 0⟩,
    ⟨"ts_3", "Push Notification Campaign", .notification, .pending, 3, 0, on 11 30⟩,
    ⟨"ts_4", "Database Maintenance", .maintenance, .failed, 10, 3, on 9 0⟩,
    ⟨"ts_5", "Send Password Reset", .email, .completed, 9, 0, on 11 45⟩ ]

end TaskWatch
