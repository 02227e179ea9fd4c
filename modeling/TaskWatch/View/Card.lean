import TaskWatch.Screen.Frame

/-! Cards: a number and its caption in a frame. -/

namespace TaskWatch.View

open Screen

/-- A card. As long as the number is not known, bars stand for it and for its caption. -/
structure Card where
  title : String
  value : Option UInt32
  caption : String
  valueStyle : Style
  captionStyle : Style
  borderStyle : Style

namespace Card

/-- The two lines of a card. -/
def lines (c : Card) : List Line :=
  let (value, caption) := match c.value with
    | some n => (toString n, c.caption)
    | none => ("▒▒▒", "▒▒▒▒▒▒▒▒")
  [[⟨value, { c.valueStyle with bold := true }⟩], [⟨caption, c.captionStyle⟩]]

/-- Draws a card. -/
def draw (c : Card) (a : Area) (g : Grid) : Grid :=
  drawFramed ⟨[c.title], c.borderStyle⟩ a .cut {} c.lines g

end Card

end TaskWatch.View
