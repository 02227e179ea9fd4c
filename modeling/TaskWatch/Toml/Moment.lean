import TaskWatch.Text.Digits
import TaskWatch.Time.Calendar
import TaskWatch.Toml.Lexical

/-! Dates and times of a TOML document.

    A date is written year, month and day, a time hours, minutes and seconds, perhaps with a fraction.
    A date may be followed by a time, and that by its distance from universal time. The day must be
    in the calendar; a minute may have a leap second. Only the form matters here. -/

namespace TaskWatch.Toml

/-- A number of so many digits that is not above a bound. -/
def fixedNumber (count most : Nat) : Reader Nat := fun cs =>
  let ds := cs.take count
  let n := Text.number ds
  if ds.length = count && ds.all Text.isDigit && n ≤ most then some (n, cs.drop count) else none

/-- The text after a character, if it begins with it. -/
def skipChar (c : Char) : List Char → Option (List Char)
  | d :: rest => if d = c then some rest else none
  | [] => none

/-- The text after a date, if it begins with one. -/
def skipDate? (cs : List Char) : Option (List Char) := do
  let (year, rest) ← fixedNumber 4 9999 cs
  let (month, rest) ← fixedNumber 2 12 (← skipChar '-' rest)
  let (day, rest) ← fixedNumber 2 31 (← skipChar '-' rest)
  if ({ year, month, day } : Time.Date).isReal then return rest else none

/-- The text after hours and minutes, if it begins with them. -/
def skipMinutes? (cs : List Char) : Option (List Char) := do
  let (_, rest) ← fixedNumber 2 23 cs
  let (_, rest) ← fixedNumber 2 59 (← skipChar ':' rest)
  return rest

/-- The text after the fraction of a second, if it begins with one. -/
def skipFractionOfSecond : List Char → List Char
  | '.' :: c :: rest => if Text.isDigit c then rest.dropWhile Text.isDigit else '.' :: c :: rest
  | cs => cs

/-- The text after a time of day, if it begins with one. -/
def skipTime? (cs : List Char) : Option (List Char) := do
  let rest ← skipMinutes? cs
  let (_, rest) ← fixedNumber 2 60 (← skipChar ':' rest)
  return skipFractionOfSecond rest

/-- The text after the distance from universal time, if it begins with one. -/
def skipDistance : List Char → List Char
  | c :: rest =>
    if c = 'Z' || c = 'z' then rest
    else if c = '+' || c = '-' then (skipMinutes? rest).getD (c :: rest)
    else c :: rest
  | [] => []

/-- The text after what may follow a date: a time, and the distance from universal time. -/
def skipTimeOfDate : List Char → List Char
  | c :: rest =>
    if c = 'T' || c = 't' || c = ' ' then ((skipTime? rest).map skipDistance).getD (c :: rest)
    else c :: rest
  | [] => []

/-- A date, a time, or both. -/
def readMoment : Reader Value := fun cs =>
  match skipDate? cs with
  | some rest => some (.moment, skipTimeOfDate rest)
  | none => (skipTime? cs).map (fun rest => (.moment, rest))

end TaskWatch.Toml
