import TaskWatch.Screen.Wrap

/-! Frames, and paragraphs in them.

    A frame is a border with titles on its upper side, one cell of border between two titles. -/

namespace TaskWatch.Screen

/-- A border with titles. -/
structure Frame where
  titles : List String
  style : Style := {}

namespace Frame

/-- Draws the titles, each from where the last one ended. -/
def drawTitles (a : Area) : List String → Grid → Grid
  | [], g => g
  | t :: rest, g =>
    if a.isEmpty then g
    else
      let width := Text.width t
      let used := width + 1
      drawTitles { a with x := a.x + used, width := a.width - used } rest
        (drawLine { a with width := min width a.width } [⟨t, {}⟩] g)

/-- Draws the border of an area that is not empty. Where the area is too small for all its corners,
    the upper left one is seen. -/
def drawBorder (a : Area) (style : Style) (g : Grid) : Grid :=
  let (left, right, top, bottom) := (a.x, a.right - 1, a.y, a.bottom - 1)
  let down (x : Nat) (g : Grid) : Grid :=
    (List.range a.height).foldl (fun g dy => g.put x (a.y + dy) "│" style) g
  let across (y : Nat) (g : Grid) : Grid :=
    (List.range a.width).foldl (fun g dx => g.put (a.x + dx) y "─" style) g
  let sides := across bottom (down right (across top (down left g)))
  let corners := [(right, bottom, "┘"), (right, top, "┐"), (left, bottom, "└"), (left, top, "┌")]
  corners.foldl (fun g (x, y, symbol) => g.put x y symbol style) sides

/-- Draws the frame around an area. -/
def draw (f : Frame) (a : Area) (g : Grid) : Grid :=
  let seen := a.meet g.area
  if seen.isEmpty then g
  else
    drawTitles ⟨seen.x + 1, seen.y, seen.width - 2, 1⟩ f.titles (drawBorder seen f.style g)

end Frame

/-- How the lines of a paragraph are broken into rows. -/
inductive Breaking where
  | cut
  | wrap

/-- Draws the glyphs of a row from a column on. Glyphs that fill no column are left out. -/
def drawRow (y : Nat) : Nat → List Glyph → Grid → Grid
  | _, [], g => g
  | x, c :: rest, g =>
    if c.width == 0 then drawRow y x rest g
    else drawRow y (x + c.width) rest (g.put x y c.symbol c.style)

/-- Draws lines of text into an area, over a style that the whole area takes. -/
def drawText (a : Area) (breaking : Breaking) (style : Style) (ls : List Line) (g : Grid) : Grid :=
  if a.isEmpty then g
  else
    let rows (l : Line) : List (List Glyph) := match breaking with
      | .cut => [cut a.width a.width (lineGlyphs style l)]
      | .wrap => wrap a.width (lineGlyphs style l)
    let shown := (ls.flatMap rows).take a.height
    (shown.foldl (fun (state : Nat × Grid) r => (state.1 + 1, drawRow state.1 a.x r state.2))
      (a.y, g.paint a style)).2

/-- Draws lines of text in a frame, over a style that the whole area takes. -/
def drawFramed (f : Frame) (a : Area) (breaking : Breaking) (style : Style) (ls : List Line) (g : Grid) :
    Grid :=
  drawText a.inner breaking style ls (f.draw a (g.paint a style))

end TaskWatch.Screen
