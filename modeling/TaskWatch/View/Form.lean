import TaskWatch.Form.Editor
import TaskWatch.View.Entry
import TaskWatch.View.Tasks

/-! The window with the form for new tasks. -/

namespace TaskWatch.View

open Screen

/-- The rows that the window takes, if the screen has them. -/
def formHeight : Nat := 18

/-- How much of the screen's width the window takes, in hundredths. -/
def formPercent : Nat := 60

/-- The label of a field. -/
def fieldLabel : Field → String
  | .name => "Task Name"
  | .kind => "Task Type"
  | .priority => "Priority (1-10)"

/-- The value of a field. -/
def fieldValue (form : Form) : Field → String
  | .name => form.name
  | .kind => match form.kind with
    | some k => "< " ++ k.word ++ " >"
    | none => "< select >"
  | .priority => form.priority

/-- A field of the form as it is shown. -/
def fieldEntry (e : Editor) (f : Field) : Entry where
  label := fieldLabel f
  value := fieldValue e.form f
  focused := e.focus == f
  error := e.messageFor f
  style := ink (·.border)
  focusStyle := ink (·.primary)
  errorStyle := ink (·.error)

/-- Draws the window. -/
def drawForm (e : Editor) (a : Area) (g : Grid) : Grid :=
  let title := if e.submitting then "Create Task (saving...)" else "Create Task"
  let framed := ({ titles := [title], style := ink (·.focus) } : Frame).draw a (g.clear a)
  let parts := a.inner.stack (Field.all.map (fun _ => .exactly Entry.height) ++ [.rest 0])
  let filled := (Field.all.zip parts).foldl (fun g (f, part) => (fieldEntry e f).draw part g) framed
  match parts.getLast? with
  | some rest =>
    drawText rest .cut (ink (·.dim)) [[⟨"Enter to create • Esc to cancel", {}⟩]] (filled.paint rest (ink (·.dim)))
  | none => filled

end TaskWatch.View
