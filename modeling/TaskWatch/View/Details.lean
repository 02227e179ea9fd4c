import TaskWatch.Screen.Frame

/-! Details: labels and values in a frame, wrapped where they are too long. -/

namespace TaskWatch.View

open Screen

/-- A panel of details. -/
structure Details where
  title : String
  fields : List (String × Span)
  labelStyle : Style
  borderStyle : Style

namespace Details

/-- A label and its value. -/
def line (d : Details) (label : String) (value : Span) : Line := [⟨label ++ ": ", d.labelStyle⟩, value]

/-- Draws the panel. -/
def draw (d : Details) (a : Area) (g : Grid) : Grid :=
  drawFramed ⟨[d.title], d.borderStyle⟩ a .wrap {} (d.fields.map (fun (label, value) => d.line label value)) g

end Details

end TaskWatch.View
