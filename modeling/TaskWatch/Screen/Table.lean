import TaskWatch.Screen.Frame

/-! Tables with a heading and at most one selected row.

    The first column takes the width that the others leave, with a column of space between any two.
    A mark stands before the selected row, and the space for it is there only while a row is
    selected. The rows are scrolled only as far as is needed to show the selected one. -/

namespace TaskWatch.Screen

/-- A table: the heading, the rows and how they look. -/
structure Table where
  heading : List String
  headingStyle : Style
  /-- The least width of the first column. -/
  least : Nat
  /-- The widths of the other columns. -/
  widths : List Nat
  rows : List (List Span)
  selected : Option Nat
  selectedStyle : Style
  /-- What stands before the selected row. -/
  mark : String

namespace Table

/-- The columns before the first one, for the mark. -/
def markWidth (t : Table) : Nat := if t.selected.isSome then Text.width t.mark else 0

/-- Where the columns begin and how wide they are, within a given width and with a column of space
    between any two. -/
def columns (t : Table) (width : Nat) : List (Nat × Nat) :=
  let start := min width t.markWidth
  let room := width - t.markWidth - t.widths.length
  let parts := divide room (.rest t.least :: t.widths.map .exactly)
  parts.zipIdx.map (fun ((first, last), i) => (start + first + i, last - first))

/-- The number of the first row that is shown, where `height` rows can be. -/
def firstShown (t : Table) (height : Nat) : Nat :=
  match t.selected with
  | some i => min i (t.rows.length - 1) + 1 - height
  | none => 0

/-- Draws the cells of a row. -/
def drawCells (a : Area) (columns : List (Nat × Nat)) (cells : List Span) (g : Grid) : Grid :=
  (columns.zip cells).foldl (fun g ((x, width), s) =>
    let first := { s with text := (textLines s.text).headD "" }
    drawLine { a with x := a.x + x, width } [first] g) g

/-- Draws the rows that there is space for. -/
def drawRows (t : Table) (a : Area) (columns : List (Nat × Nat)) (g : Grid) : Grid :=
  let start := t.firstShown a.height
  let shown := ((t.rows.drop start).take a.height).zipIdx
  shown.foldl (fun g (cells, i) =>
    let line : Area := { a with y := a.y + i, height := 1 }
    let selected := t.selected == some (start + i)
    let marked :=
      if selected then drawLine { line with width := t.markWidth } [⟨t.mark, {}⟩] g else g
    let filled := drawCells line columns cells marked
    if selected then filled.paint line t.selectedStyle else filled) g

/-- Draws the table into an area. -/
def draw (t : Table) (a : Area) (g : Grid) : Grid :=
  if a.isEmpty then g
  else
    let columns := t.columns a.width
    let top : Area := { a with height := 1 }
    let titled := drawCells top columns (t.heading.map (fun s => ⟨s, {}⟩)) (g.paint top t.headingStyle)
    t.drawRows { a with y := a.y + 1, height := a.height - 1 } columns titled

end Table

end TaskWatch.Screen
