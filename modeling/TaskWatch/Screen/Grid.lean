import TaskWatch.Screen.Area
import TaskWatch.Screen.Style
import TaskWatch.Text.Width

/-! A screen: a grid of cells, each with what is shown there and its look.

    What is drawn later covers what was drawn before. Drawing outside the screen changes nothing. -/

namespace TaskWatch.Screen

/-- A place on the screen. -/
structure Cell where
  symbol : String := " "
  look : Look := {}
  deriving DecidableEq, Repr

/-- The symbol reaches into the cell after its own. -/
def Cell.isWide (c : Cell) : Bool := 1 < Text.width c.symbol

/-- A screen, its cells row by row. -/
structure Grid where
  width : Nat
  height : Nat
  cells : Array Cell

namespace Grid

/-- A screen on which nothing was drawn. One of too many cells is smaller than asked for. -/
def blank (width height : Nat) : Grid :=
  let a := Area.ofSize 0 0 width height
  { width := a.width, height := a.height, cells := Array.replicate (a.width * a.height) {} }

/-- The whole screen. -/
def area (g : Grid) : Area := ⟨0, 0, g.width, g.height⟩

/-- Changes the cell in a column and a row. -/
def change (g : Grid) (x y : Nat) (f : Cell → Cell) : Grid :=
  if x < g.width then { g with cells := g.cells.modify (y * g.width + x) f } else g

/-- Shows a symbol in a cell, with a style laid over the cell's look. -/
def put (x y : Nat) (symbol : String) (style : Style) (g : Grid) : Grid :=
  g.change x y (fun c => { symbol, look := c.look.patch style })

/-- Empties a cell. -/
def reset (x y : Nat) (g : Grid) : Grid := g.change x y (fun _ => {})

/-- Does something with each cell of an area, row by row. -/
def forEach (a : Area) (f : Nat → Nat → Grid → Grid) (g : Grid) : Grid :=
  let seen := a.meet g.area
  (List.range seen.height).foldl (fun g dy =>
    (List.range seen.width).foldl (fun g dx => f (seen.x + dx) (seen.y + dy) g) g) g

/-- Lays a style over an area. -/
def paint (a : Area) (style : Style) (g : Grid) : Grid :=
  g.forEach a (fun x y g => g.change x y (fun c => { c with look := c.look.patch style }))

/-- Empties an area. -/
def clear (a : Area) (g : Grid) : Grid := g.forEach a reset

/-- The screen as a terminal shows it. The cell after a wide symbol is not sent to the terminal, at
    the end of a row neither, so it stays as it was before anything was drawn. -/
def shown (g : Grid) : Grid :=
  let wide := g.cells.map Cell.isWide
  { g with cells := g.cells.mapIdx (fun i c => if 0 < i && wide.getD (i - 1) false then {} else c) }

/-- The cells of a row. -/
def row (g : Grid) (y : Nat) : List Cell :=
  (List.range g.width).map (fun x => g.cells.getD (y * g.width + x) {})

/-- The rows from top to bottom. -/
def rows (g : Grid) : List (List Cell) := (List.range g.height).map g.row

end Grid

/-- The text of some cells. -/
def cellsText (cs : List Cell) : String := String.join (cs.map (·.symbol))

/-- Puts a cell before runs of cells of equal look, each run with its text and its look. -/
def addToRuns (c : Cell) : List (String × Look) → List (String × Look)
  | (text, look) :: rest =>
    if c.look = look then (c.symbol ++ text, look) :: rest else (c.symbol, c.look) :: (text, look) :: rest
  | [] => [(c.symbol, c.look)]

/-- The runs of cells of equal look. -/
def runs (cs : List Cell) : List (String × Look) := cs.foldr addToRuns []

end TaskWatch.Screen
