import TaskWatch.Screen.Frame

/-! Entries of a form: one field in a frame, with what is wrong with it below. -/

namespace TaskWatch.View

open Screen

/-- A field of a form as it is shown. -/
structure Entry where
  label : String
  value : String
  focused : Bool
  /-- What is wrong with the value. -/
  error : Option String
  style : Style
  focusStyle : Style
  errorStyle : Style

namespace Entry

/-- The rows that an entry takes. -/
def height : Nat := 4

/-- The style of the frame: an error shows before the focus does. -/
def borderStyle (e : Entry) : Style :=
  if e.error.isSome then e.errorStyle else if e.focused then e.focusStyle else e.style

/-- The value, with a cursor while the field has the focus, and what is wrong with it. -/
def lines (e : Entry) : List Line :=
  [⟨e.value ++ (if e.focused then "_" else ""), {}⟩]
    :: e.error.toList.map (fun message => [⟨message, e.errorStyle⟩])

/-- Draws an entry. -/
def draw (e : Entry) (a : Area) (g : Grid) : Grid :=
  drawFramed ⟨[e.label], e.borderStyle⟩ a .cut {} e.lines g

end Entry

end TaskWatch.View
