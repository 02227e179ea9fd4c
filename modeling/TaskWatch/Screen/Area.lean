import TaskWatch.Numeric.Binary64
import TaskWatch.Screen.Share

/-! Rectangles on a screen, and how they are divided.

    Columns and rows are numbered up to 65535, and a rectangle has no more cells than that. Where a
    rectangle is divided in proportion, each boundary is rounded to the nearest column or row,
    halves upwards, so neighbouring parts always meet. What takes one length from another does so in
    whatever way is given, and on the screen a difference ends at zero. -/

namespace TaskWatch.Screen

/-- A rectangle: its upper left corner, its width and its height. -/
structure Area where
  x : Nat
  y : Nat
  width : Nat
  height : Nat
  deriving DecidableEq, Repr

namespace Area

/-- The last column or row that has a number, and the most cells of a rectangle. -/
def most : Nat := 65535

open Numeric in
/-- The rectangle of the given place and size. One of too many cells is made smaller, and keeps the
    ratio of its sides as well as doubles can tell it. -/
def ofSize (x y width height : Nat) : Area :=
  if width * height ≤ most then { x, y, width, height }
  else
    let ratio := (Binary64.ofNat width).div (Binary64.ofNat height)
    let side := ((Binary64.ofNat most).div ratio).sqrt
    { x, y, width := (side.mul ratio).floor, height := side.floor }

/-- The first column to the right. -/
def right (a : Area) : Nat := min (a.x + a.width) most

/-- The first row below. -/
def bottom (a : Area) : Nat := min (a.y + a.height) most

/-- There is nothing in it. -/
def isEmpty (a : Area) : Bool := a.width == 0 || a.height == 0

/-- What lies within a border on all sides. -/
def inner (a : Area) : Area :=
  { x := min (a.x + 1) a.right
    y := min (a.y + 1) a.bottom
    width := a.width - 2
    height := a.height - 2 }

/-- The part of it that is also in another. -/
def meet (a b : Area) : Area :=
  let x := max a.x b.x
  let y := max a.y b.y
  { x, y, width := min a.right b.right - x, height := min a.bottom b.bottom - y }

section

variable {m : Type → Type} [Monad m] (minus : Nat → Nat → m Nat)

/-- Its columns from one boundary to another. -/
def columnsBy (a : Area) (first last : Nat) : m Area := do
  return { a with x := a.x + first, width := ← minus last first }

/-- Its rows from one boundary to another. -/
def rowsBy (a : Area) (first last : Nat) : m Area := do
  return { a with y := a.y + first, height := ← minus last first }

/-- Its columns between the given hundredths of its width. -/
def hundredthsBy (a : Area) (first last : Nat) : m Area := do
  let width ← minus a.right a.x
  a.columnsBy minus (nearest (first * width) 100) (nearest (last * width) 100)

/-- Parts one above another, of the heights that are wanted. -/
def stackBy (a : Area) (wants : List Want) : m (List Area) := do
  let parts ← divideBy minus (← minus a.bottom a.y) wants
  parts.mapM (fun (first, last) => a.rowsBy minus first last)

/-- The rectangle of the given height, and of the given hundredths of the width, in the middle. -/
def centeredBy (percent height : Nat) (a : Area) : m Area := do
  let height := min height a.height
  let above := (← minus a.height height) / 2
  let left := (← minus 100 percent) / 2
  let parts ← a.stackBy minus [.exactly above, .exactly height, .rest 0]
  (parts.getD 1 a).hundredthsBy minus left (left + percent)

end

/-- So many parts side by side, as equal as they can be. -/
def sideBySide (a : Area) (parts : Nat) : List Area :=
  (boundaries parts 0 (List.replicate parts (a.right - a.x))).map
    (fun (first, last) => (a.columnsBy shorten first last).run)

/-- Its columns between the given hundredths of its width, on the screen. -/
def hundredths (a : Area) (first last : Nat) : Area := (a.hundredthsBy shorten first last).run

/-- Parts one above another, of the heights that are wanted, on the screen. -/
def stack (a : Area) (wants : List Want) : List Area := (a.stackBy shorten wants).run

/-- The rectangle in the middle, on the screen. -/
def centered (percent height : Nat) (a : Area) : Area := (a.centeredBy shorten percent height).run

end Area

end TaskWatch.Screen
