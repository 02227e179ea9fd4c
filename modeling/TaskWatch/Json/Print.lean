import TaskWatch.Text.Digits

/-! Writing JSON.

    Within a string the quotation mark, the reverse solidus and the control characters are escaped,
    the common ones by a letter and the others by their number; all else stands for itself. -/

namespace TaskWatch.Json

/-- A hexadecimal digit in lower case. -/
def hexDigit (n : Nat) : Char := Nat.digitChar n

/-- The character as it stands within a string. -/
def escape (c : Char) : List Char :=
  if c = '"' then ['\\', '"']
  else if c = '\\' then ['\\', '\\']
  else if c = '\x08' then ['\\', 'b']
  else if c = '\x0c' then ['\\', 'f']
  else if c = '\n' then ['\\', 'n']
  else if c = '\x0d' then ['\\', 'r']
  else if c = '\t' then ['\\', 't']
  else if c.toNat < 0x20 then
    ['\\', 'u', '0', '0', hexDigit (c.toNat / 16), hexDigit (c.toNat % 16)]
  else [c]

/-- The text as a JSON string. -/
def string (s : String) : String :=
  String.ofList ('"' :: (s.toList.flatMap escape ++ ['"']))

/-- Members with their values already written, as an object without blanks. -/
def object (members : List (String × String)) : String :=
  "\x7b" ++ ",".intercalate (members.map (fun (name, value) => string name ++ ":" ++ value)) ++ "\x7d"

/-- The same object with each member on a line of its own, set in by two spaces. -/
def spreadObject (members : List (String × String)) : String :=
  "\x7b\n" ++ ",\n".intercalate (members.map (fun (name, value) => "  " ++ string name ++ ": " ++ value))
    ++ "\n\x7d"

/-- Values already written, as a list without blanks. -/
def list (values : List String) : String := "[" ++ ",".intercalate values ++ "]"

end TaskWatch.Json
