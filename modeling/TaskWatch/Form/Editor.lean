import TaskWatch.Form.Basic

/-! Filling in the form, key by key.

    One field has the focus and takes what is typed. The name takes any character, the priority only
    digits and the minus sign, and the kind is stepped through with the space bar and the letters `l`
    and `h`. -/

namespace TaskWatch

/-- The form on the screen. -/
structure Editor where
  form : Form := .fresh
  focus : Field := .name
  violations : Option (List Violation) := none
  /-- A request is on its way, and no other may be sent. -/
  submitting : Bool := false
  deriving DecidableEq

namespace Editor

/-- Moves the focus to the next field. -/
def focusNext (e : Editor) : Editor := { e with focus := e.focus.next }

/-- Moves the focus to the previous field. -/
def focusPrevious (e : Editor) : Editor := { e with focus := e.focus.previous }

/-- Steps to another kind; from none to the first. -/
def cycleKind (forward : Bool) (e : Editor) : Editor :=
  let kind := match e.form.kind with
    | some k => if forward then k.next else k.previous
    | none => .email
  { e with form := { e.form with kind := some kind } }

/-- A character that the priority takes. -/
def isPriorityChar (c : Char) : Bool := Text.isDigit c || c == '-'

/-- Types a character into the field with the focus. -/
def input (c : Char) (e : Editor) : Editor :=
  match e.focus with
  | .name => { e with form := { e.form with name := e.form.name.push c } }
  | .priority =>
    if isPriorityChar c then { e with form := { e.form with priority := e.form.priority.push c } }
    else e
  | .kind =>
    if c = ' ' || c = 'l' then e.cycleKind true
    else if c = 'h' then e.cycleKind false
    else e

/-- A text without its last character. -/
def withoutLast (s : String) : String := String.ofList s.toList.dropLast

/-- Takes back the last character of the field with the focus; a kind is unset. -/
def backspace (e : Editor) : Editor :=
  match e.focus with
  | .name => { e with form := { e.form with name := withoutLast e.form.name } }
  | .priority => { e with form := { e.form with priority := withoutLast e.form.priority } }
  | .kind => { e with form := { e.form with kind := none } }

/-- The message shown at a field. -/
def messageFor (e : Editor) (f : Field) : Option String :=
  e.violations.bind (fun vs => Violations.messageFor vs f)

/-- Shows what the form breaks, or nothing if it breaks nothing. -/
def validate (e : Editor) : Editor :=
  match e.form.validate with
  | .ok _ => { e with violations := none }
  | .error vs => { e with violations := some vs }

end Editor

end TaskWatch
