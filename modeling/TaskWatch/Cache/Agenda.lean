import TaskWatch.Cache.Key
import TaskWatch.Time.Instant

/-! The work that a cache has under way.

    Each piece of work is a job with a number of its own. A job waits until it is due; one that is
    due at once stands ready to run, and one without a due time waits for somebody to give it one. Of
    the jobs that are due, the one due first runs first, and among equals the one that has stood
    longest on the agenda. -/

namespace TaskWatch.Cache

/-- What is to be done when a job is due. -/
inductive Duty where
  /-- Call the producer for a fetch. -/
  | call (generation producer : Nat)
  /-- Take the answer to a call of the producer and finish the fetch. -/
  | reply (generation producer call : Nat)
  /-- Let go of a call that nobody waits for any more. -/
  | release (producer call : Nat)
  /-- Start a scheduled fetch and wait for another period. -/
  | poll (period : Nat)
  /-- Remove the entry, if nobody has taken an interest in it. -/
  | collect (token : Nat)
  deriving DecidableEq, Repr

/-- A piece of work under way. -/
structure Job where
  number : Nat
  key : Key
  duty : Duty
  due : Option Nat
  turn : Nat
  deriving DecidableEq, Repr

/-- The fetch that the job carries out, if it does. -/
def Job.generation? (j : Job) : Option Nat :=
  match j.duty with
  | .call g _ => some g
  | .reply g _ _ => some g
  | _ => none

/-- The job is due. -/
def Job.isDue (now : Nat) (j : Job) : Bool := j.due.any (fun d => d ≤ now)

/-- The first job is to run before the second, which has stood on the agenda no longer. -/
def Job.before (j k : Job) : Bool := j.due.getD 0 ≤ k.due.getD 0

/-- The jobs under way, the longest standing first. -/
abbrev Agenda := List Job

namespace Agenda

/-- The job that is to run next, if any is due. -/
def next? (agenda : Agenda) (now : Nat) : Option Job :=
  (agenda.filter (Job.isDue now)).foldl
    (fun best j => match best with
      | some b => if b.before j then some b else some j
      | none => some j)
    none

/-- When the next job that is not due yet will be. -/
def wakes? (agenda : Agenda) (now : Nat) : Option Nat :=
  ((agenda.filterMap (·.due)).filter (fun d => now < d)).min?

/-- Takes a job off. -/
def remove (agenda : Agenda) (number : Nat) : Agenda :=
  agenda.filter (fun j => j.number != number)

/-- Changes a job where it stands. -/
def change (agenda : Agenda) (number : Nat) (f : Job → Job) : Agenda :=
  agenda.map (fun j => if j.number = number then f j else j)

/-- The job with a number. -/
def find? (agenda : Agenda) (number : Nat) : Option Job :=
  List.find? (fun j => j.number == number) agenda

end Agenda

end TaskWatch.Cache
