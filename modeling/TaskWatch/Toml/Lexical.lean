import TaskWatch.Toml.Value

/-! Blanks, comments and the ends of lines in a TOML document. -/

namespace TaskWatch.Toml

/-- Reads something from the front of a text, or nothing. -/
abbrev Reader (α : Type) := List Char → Option (α × List Char)

/-- A blank within a line. -/
def isBlank (c : Char) : Bool := c == ' ' || c == '\t'

/-- A character that a comment may hold, and a text may hold unescaped. -/
def isPlain (c : Char) : Bool := c == '\t' || (' ' ≤ c && c ≠ '\x7f')

/-- The text after the blanks. -/
def skipBlanks (cs : List Char) : List Char := cs.dropWhile isBlank

/-- The text after an end of line. -/
def endOfLine? : List Char → Option (List Char)
  | '\n' :: rest => some rest
  | '\x0d' :: '\n' :: rest => some rest
  | _ => none

/-- The text after the comment, if it begins with one. -/
def skipComment : List Char → List Char
  | '#' :: rest => rest.dropWhile isPlain
  | cs => cs

/-- The text after the rest of a line on which only a comment may follow. -/
def finishLine (cs : List Char) : Option (List Char) :=
  match skipComment (skipBlanks cs) with
  | [] => some []
  | rest => endOfLine? rest

/-- The text after blanks, comments and ends of lines, where `fuel` lines at most are passed. -/
def skipLines : Nat → List Char → Option (List Char)
  | 0, cs => some cs
  | fuel + 1, cs =>
    let rest := skipBlanks cs
    match rest with
    | '#' :: _ =>
      match skipComment rest with
      | [] => some []
      | after => (endOfLine? after).bind (skipLines fuel)
    | _ =>
      match endOfLine? rest with
      | some after => skipLines fuel after
      | none => some rest

/-- The text from the next token on, on this line or a later one. -/
def skipToToken (cs : List Char) : Option (List Char) := skipLines (cs.length + 1) cs

end TaskWatch.Toml
