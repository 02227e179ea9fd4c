import TaskWatch.Board.Basic
import TaskWatch.Screen.Table
import TaskWatch.View.Details
import TaskWatch.View.Palette

/-! The list of tasks, with the details of the selected one beside it.

    Until there is data, the frame of the list says that it is loading, or why it could not be
    loaded. A later failure is told in the title, and the list stays as it was. -/

namespace TaskWatch.View

open Screen

/-- The style with a colour of the palette. -/
def ink (f : Palette → Color) : Style := .color (f palette)

/-- The row of a task. -/
def taskRow (t : Task) : List Span :=
  [ ⟨t.name, {}⟩,
    ⟨t.kind.word, .color (palette.kind t.kind)⟩,
    ⟨" " ++ t.status.word ++ " ", palette.badge t.status⟩,
    ⟨toString t.priority, .color (palette.priority t.priority)⟩,
    ⟨t.created.dateText ++ " " ++ t.created.clockText, {}⟩ ]

/-- The table of tasks. -/
def taskTable (b : Board) : Table where
  heading := ["Task Name", "Type", "Status", "Priority", "Created At"]
  headingStyle := { ink (·.primary) with bold := true }
  least := 20
  widths := [13, 11, 8, 19]
  rows := b.rows.map taskRow
  selected := b.selectedRow?
  selectedStyle := { background := some palette.highlight }
  mark := "> "

/-- The details of a task. -/
def taskFields (t : Task) : List (String × Span) :=
  [ ("ID", ⟨t.id, {}⟩), ("Name", ⟨t.name, {}⟩), ("Type", ⟨t.kind.word, {}⟩),
    ("Status", ⟨t.status.word, palette.badge t.status⟩), ("Priority", ⟨toString t.priority, {}⟩),
    ("Retries", ⟨toString t.retries, {}⟩), ("Created", ⟨t.created.offsetText, {}⟩) ]

/-- The panel for the selected task, empty if none is. -/
def taskDetails (b : Board) : Details where
  title := "Details"
  fields := (b.selectedTask?.map taskFields).getD []
  labelStyle := ink (·.secondary)
  borderStyle := ink (·.border)

/-- Why the tasks could not be loaded the last time. -/
def taskError? (b : Board) : Option String := b.tasks.snapshot.bind (·.error)

/-- The title of the list. -/
def tasksTitle : String := "Recent Tasks"

/-- What stands in place of tasks that are not known. -/
def tasksMissing (b : Board) : Span :=
  match taskError? b with
  | some e => ⟨"Error fetching tasks: " ++ e, ink (·.error)⟩
  | none => ⟨"Loading tasks...", ink (·.dim)⟩

/-- Draws the list of tasks and the details. -/
def drawTasks (b : Board) (a : Area) (g : Grid) : Grid :=
  if b.tasks.data.isNone then
    drawFramed ⟨[tasksTitle], ink (·.border)⟩ a .cut {} [[tasksMissing b]] g
  else
    let (left, right) := (a.hundredths 0 70, a.hundredths 70 100)
    let second := match taskError? b with
      | some e => "Recent Tasks (refresh failed: " ++ e ++ ")"
      | none => tasksTitle
    let framed := ({ titles := [tasksTitle, second], style := ink (·.border) } : Frame).draw left g
    (taskDetails b).draw right ((taskTable b).draw left.inner framed)

end TaskWatch.View
