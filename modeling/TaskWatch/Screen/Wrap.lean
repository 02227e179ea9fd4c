import TaskWatch.Screen.Line

/-! Breaking a line of text into rows.

    Cutting keeps what fits into one row. Wrapping breaks between words: a word that does not fit
    goes on to the next row, and one that no row holds is broken. A row neither begins nor ends with
    the blanks at which the line was broken. -/

namespace TaskWatch.Screen

/-- The glyphs of a line that fit into a row. Glyphs wider than any row are passed over. -/
def cut (most : Nat) (left : Nat) : List Glyph → List Glyph
  | [] => []
  | c :: rest =>
    if most < c.width then cut most left rest
    else if left < c.width then []
    else c :: cut most (left - c.width) rest

/-- A line partly wrapped: the rows that are done, the latest first, the row that is being filled,
    and after it the blanks and the word that may yet belong to it. -/
structure Wrapping where
  done : List (List Glyph) := []
  row : List Glyph := []
  blanks : List Glyph := []
  word : List Glyph := []
  /-- The last glyph belonged to a word. -/
  inWord : Bool := false

namespace Wrapping

/-- The word goes to the row, after the blanks unless it is the first of the row. -/
def settleWord (w : Wrapping) : Wrapping :=
  { w with
    row := if w.row.isEmpty then w.word else w.row ++ w.blanks ++ w.word
    blanks := []
    word := [] }

/-- The next glyph shows that the word belongs to the row. -/
def wordIsSettled (most : Nat) (c : Glyph) (w : Wrapping) : Bool :=
  (w.inWord && c.isBlank)
    || (w.row.isEmpty && most < totalWidth w.word + c.width)
    || (w.row.isEmpty && most < totalWidth w.blanks + c.width)

/-- Drops the blanks that would have ended a row with so many columns left, and the blank after
    them. The answer is `none` if there is no such blank. -/
def dropBlanks (left : Nat) : List Glyph → Option (List Glyph)
  | [] => none
  | b :: rest => if left < b.width then some rest else dropBlanks (left - b.width) rest

/-- The row is full, or the word with its blanks would fill it. -/
def rowIsFull (most : Nat) (c : Glyph) (w : Wrapping) : Bool :=
  let filled := totalWidth w.row
  most ≤ filled || (0 < c.width && most ≤ filled + totalWidth w.blanks + totalWidth w.word)

/-- Takes up a glyph. -/
def take (c : Glyph) (w : Wrapping) : Wrapping :=
  if c.isBlank then { w with blanks := w.blanks ++ [c], inWord := false }
  else { w with word := w.word ++ [c], inWord := true }

/-- One more glyph, where a row holds `most` columns. -/
def step (most : Nat) (w : Wrapping) (c : Glyph) : Wrapping :=
  if most < c.width then w
  else
    let w := if w.wordIsSettled most c then w.settleWord else w
    if w.rowIsFull most c then
      let broken := { w with done := w.row :: w.done, row := [], blanks := [] }
      match dropBlanks (most - totalWidth w.row) w.blanks with
      | some blanks => { broken with blanks }.take c
      | none => if c.isBlank then broken else broken.take c
    else w.take c

/-- The rows, once no glyph is left. -/
def rows (w : Wrapping) : List (List Glyph) :=
  let idle := w.row.isEmpty && w.word.isEmpty
  let last :=
    if w.word.isEmpty && w.blanks.isEmpty then w.row
    else (if w.row.isEmpty then [] else w.row ++ w.blanks) ++ w.word
  let done := if idle && !w.blanks.isEmpty then [] :: w.done else w.done
  let all := if last.isEmpty then done else last :: done
  if all.isEmpty then [[]] else all.reverse

end Wrapping

/-- The rows of a line, where a row holds `most` columns. -/
def wrap (most : Nat) (gs : List Glyph) : List (List Glyph) :=
  (gs.foldl (Wrapping.step most) {}).rows

end TaskWatch.Screen
