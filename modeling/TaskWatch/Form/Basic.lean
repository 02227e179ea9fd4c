import TaskWatch.Form.Violation
import TaskWatch.Numeric.Power
import TaskWatch.Task.Basic
import TaskWatch.Text.Blank
import TaskWatch.Text.Digits

/-! The form for new tasks, as it is filled in, and the rules it must keep.

    A request can only come from `Form.validate`, so whatever reaches a task source keeps the rules.
    Each field breaks one rule at most, and the violations stand in the order of the fields. -/

namespace TaskWatch

/-- The fewest characters of a name. -/
def shortestName : Nat := 3

/-- The lowest priority. -/
def lowestPriority : Nat := 1

/-- The highest priority. -/
def highestPriority : Nat := 10

/-- The entries of the form. -/
structure Form where
  name : String
  kind : Option Kind
  priority : String
  deriving DecidableEq, Repr

namespace Form

/-- A form nobody has touched. -/
def fresh : Form := { name := "", kind := some .email, priority := "5" }

/-- A form with every field filled in. -/
def filled (name : String) (kind : Kind) (priority : Int) : Form :=
  { name, kind := some kind, priority := toString priority }

/-- The integer that a sign and digits write, if it fits 64 bits. -/
def wholeNumber? (cs : List Char) : Option Int :=
  let unsigned (ds : List Char) : Option Nat :=
    if !ds.isEmpty && ds.all Text.isDigit then some (Text.number ds) else none
  let value : Option Int := match cs with
    | '+' :: ds => (unsigned ds).map Int.ofNat
    | '-' :: ds => (unsigned ds).map (fun n => -(n : Int))
    | ds => (unsigned ds).map Int.ofNat
  value.filter (Numeric.fitsWord 64)

/-- What the name breaks. -/
def nameViolation? (form : Form) : Option Violation :=
  if form.name.length < shortestName then
    some ⟨.name, "Task name must be at least " ++ toString shortestName ++ " characters."⟩
  else none

/-- What the kind breaks. -/
def kindViolation? (form : Form) : Option Violation :=
  if form.kind.isNone then some ⟨.kind, "Select a task type."⟩ else none

/-- The priority, or what it breaks. -/
def checkPriority (form : Form) : Except Violation Nat :=
  match wholeNumber? (Text.trim form.priority.toList) with
  | none => .error ⟨.priority, "Priority must be a whole number."⟩
  | some n =>
    if n < lowestPriority then
      .error ⟨.priority, "Priority must be at least " ++ toString lowestPriority ++ "."⟩
    else if n > highestPriority then
      .error ⟨.priority, "Priority must be at most " ++ toString highestPriority ++ "."⟩
    else .ok n.toNat

/-- What the priority breaks. -/
def priorityViolation? (form : Form) : Option Violation :=
  match form.checkPriority with
  | .error v => some v
  | .ok _ => none

/-- Everything the form breaks, in the order of its fields. -/
def violations (form : Form) : List Violation :=
  form.nameViolation?.toList ++ form.kindViolation?.toList ++ form.priorityViolation?.toList

/-- The request the form stands for, or everything it breaks. -/
def validate (form : Form) : Except (List Violation) Request :=
  match form.violations, form.kind, form.checkPriority with
  | [], some kind, .ok n => .ok { name := form.name, kind, priority := UInt8.ofNat n }
  | vs, _, _ => .error vs

end Form

end TaskWatch
