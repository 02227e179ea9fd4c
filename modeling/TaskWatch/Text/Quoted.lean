import TaskWatch.Text.Hidden

/-! Quoted characters and texts, in which everything can be told apart by sight.

    A quotation mark of the kind that encloses the text, the reverse solidus and the common control
    characters are written with a reverse solidus. Any other character that does not stand out is
    written by its number. -/

namespace TaskWatch.Text

/-- The lower-case hexadecimal digits of a number. -/
def hex (n : Nat) : String := String.ofList (Nat.toDigits 16 n)

/-- The character as it stands between quotation marks of the given kind. -/
def shown (quote : Char) (c : Char) : String :=
  if c = '\x00' then "\\0"
  else if c = '\t' then "\\t"
  else if c = '\x0d' then "\\r"
  else if c = '\n' then "\\n"
  else if c = '\\' || c = quote then "\\" ++ c.toString
  else if isHidden c then "\\u\x7b" ++ hex c.toNat ++ "\x7d"
  else c.toString

/-- The character between apostrophes. -/
def quotedChar (c : Char) : String := "'" ++ shown '\'' c ++ "'"

/-- The text between quotation marks. -/
def quoted (s : String) : String := "\"" ++ String.join (s.toList.map (shown '"')) ++ "\""

end TaskWatch.Text
