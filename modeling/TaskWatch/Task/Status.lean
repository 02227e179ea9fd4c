/-! The status of a task, as its scheduler reports it. -/

namespace TaskWatch

/-- Where a task is in its life. -/
inductive Status where
  | pending
  | running
  | completed
  | failed
  deriving DecidableEq, Repr

namespace Status

/-- Every status, in order. -/
def all : List Status := [.pending, .running, .completed, .failed]

/-- The word that stands for the status in records and on the screen. -/
def word : Status → String
  | .pending => "pending"
  | .running => "running"
  | .completed => "completed"
  | .failed => "failed"

/-- The task has finished, well or not. -/
def isTerminal : Status → Bool
  | .completed | .failed => true
  | .pending | .running => false

/-- The status a word stands for. -/
def ofWord? (w : String) : Option Status :=
  all.find? (fun s => s.word == w)

end Status

end TaskWatch
