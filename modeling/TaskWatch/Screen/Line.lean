import TaskWatch.Screen.Grid
import TaskWatch.Text.Blank
import TaskWatch.Text.Cluster
import TaskWatch.Text.Width

/-! Lines of styled text. -/

namespace TaskWatch.Screen

/-- A piece of text of one style. -/
structure Span where
  text : String
  style : Style := {}
  deriving DecidableEq, Repr

/-- A line of text. -/
abbrev Line := List Span

/-- A character as a reader counts it, with its style. -/
structure Glyph where
  symbol : String
  style : Style
  deriving DecidableEq, Repr

/-- The columns a glyph fills. -/
def Glyph.width (g : Glyph) : Nat := Text.width g.symbol

/-- The columns of glyphs in a row. -/
def totalWidth (gs : List Glyph) : Nat := gs.foldr (fun g n => g.width + n) 0

/-- A glyph that only separates words. -/
def Glyph.isBlank (g : Glyph) : Bool :=
  g.symbol.toList.all Text.isBlank && g.symbol != String.ofList ['\xa0']

/-- The glyphs of a span, laid over a base style. Line breaks are left out. -/
def Span.glyphs (base : Style) (s : Span) : List Glyph :=
  ((Text.clusters s.text).filter (· != "\n")).map (fun symbol => ⟨symbol, base.over s.style⟩)

/-- The glyphs of a line, laid over a base style. -/
def lineGlyphs (base : Style) (l : Line) : List Glyph := l.flatMap (Span.glyphs base)

/-- Draws glyphs from a column on, as long as the columns before `limit` hold them. The cells that a
    wide glyph covers are emptied. -/
def drawWithin (limit y : Nat) : Nat → List Glyph → Grid → Grid
  | _, [], g => g
  | x, c :: rest, g =>
    let next := x + c.width
    if limit < next then g
    else
      let shown := g.put x y c.symbol c.style
      let emptied := (List.range (c.width - 1)).foldl (fun g i => g.reset (x + 1 + i) y) shown
      drawWithin limit y next rest emptied

/-- Draws a line in the first row of an area, cut off at its right end. -/
def drawLine (a : Area) (l : Line) (g : Grid) : Grid :=
  let seen := a.meet g.area
  if seen.isEmpty then g
  else
    (l.foldl (fun (state : Nat × Grid) s =>
      let gs := s.glyphs {}
      let width := Text.width s.text
      let limit := min seen.right (state.1 + width)
      if seen.right ≤ state.1 || width == 0 then state
      else (state.1 + width, drawWithin limit seen.y state.1 gs state.2)) (seen.x, g)).2

/-- A line read in reverse, without the carriage return that belongs to the line break after it. -/
def lineBefore (line : List Char) : String :=
  String.ofList (match line with
    | '\x0d' :: rest => rest.reverse
    | _ => line.reverse)

/-- The lines of a text after the part of a line already read, in reverse. -/
def linesFrom (line : List Char) : List Char → List String
  | [] => if line.isEmpty then [] else [String.ofList line.reverse]
  | c :: rest => if c = '\n' then lineBefore line :: linesFrom [] rest else linesFrom (c :: line) rest

/-- The lines of a text. A line break at its end begins no further line, and a carriage return
    before a line break belongs to it. -/
def textLines (s : String) : List String := linesFrom [] s.toList

end TaskWatch.Screen
