import TaskWatch.Numeric.Power
import TaskWatch.Text.Blank
import TaskWatch.Text.Digits
import TaskWatch.Time.Stamp

/-! Points of time in the notation of RFC 3339.

    Reading is lenient: blanks may stand before every part, a month or an hour may have one digit,
    a year with a sign may have any number of them, the date and the time may be joined by `T`, `t`
    or a space, and the offset may be `Z`, `z`, `UTC` in any case, or hours and minutes with or
    without a colon. The fraction of a second is cut off after nine digits. Second 60 is a leap
    second.

    Writing shows no fraction, or three, six or nine digits, the fewest that are exact. -/

namespace TaskWatch.Time

open TaskWatch.Text

/-- Why a text is not a point of time. -/
inductive Fault where
  | outOfRange
  | impossible
  | unexpected
  | tooShort
  | tooLong
  deriving DecidableEq, Repr

/-- The wording of a fault. -/
def Fault.message : Fault → String
  | .outOfRange => "input is out of range"
  | .impossible => "no possible date and time matching input"
  | .unexpected => "input contains invalid characters"
  | .tooShort => "premature end of input"
  | .tooLong => "trailing input"

/-- The largest number that a run of digits may write. -/
def largestNumber : Nat := Numeric.twoTo 63 - 1

/-- Between one and `most` digits from the front. -/
def takeNumber (most : Option Nat) (cs : List Char) : Except Fault (Nat × List Char) :=
  match cs with
  | [] => .error .tooShort
  | c :: _ =>
    if isDigit c then
      let run := match most with
        | some n => (cs.take n).takeWhile isDigit
        | none => cs.takeWhile isDigit
      if number run > largestNumber then .error .outOfRange
      else .ok (number run, cs.drop run.length)
    else .error .unexpected

/-- A number of at most two digits that lies between two bounds. -/
def takePart (least most : Nat) (cs : List Char) : Except Fault (Nat × List Char) := do
  let (n, rest) ← takeNumber (some 2) (trimStart cs)
  if least ≤ n && n ≤ most then return (n, rest) else throw .outOfRange

/-- The year: four digits at most, or any number of them after a sign. -/
def takeYear (cs : List Char) : Except Fault (Int × List Char) := do
  let (year, rest) ← match trimStart cs with
    | '-' :: more => do
      let (n, rest) ← takeNumber none more
      pure (-(n : Int), rest)
    | '+' :: more => do
      let (n, rest) ← takeNumber none more
      pure ((n : Int), rest)
    | start => do
      let (n, rest) ← takeNumber (some 4) start
      pure ((n : Int), rest)
  if Numeric.fitsWord 32 year then return (year, rest) else throw .outOfRange

/-- Passes over blanks and then the one character. -/
def takeMark (mark : Char) (cs : List Char) : Except Fault (List Char) :=
  match trimStart cs with
  | [] => .error .tooShort
  | c :: rest => if c = mark then .ok rest else .error .unexpected

/-- The fraction of a second in nanoseconds, if there is one. -/
def takeFraction (cs : List Char) : Except Fault (Nat × List Char) :=
  match cs with
  | '.' :: more => do
    let (n, rest) ← takeNumber (some 9) more
    let width := more.length - rest.length
    return (n * Numeric.tenTo (9 - width), rest.dropWhile isDigit)
  | _ => .ok (0, cs)

/-- The length of a text in UTF-8. -/
def octets (cs : List Char) : Nat := cs.foldr (fun c n => c.utf8Size + n) 0

/-- Two digits that stand first. -/
def takePair (cs : List Char) : Except Fault ((Nat × Nat) × List Char) :=
  if octets (cs.take 2) < 2 then .error .tooShort
  else match cs with
    | a :: b :: rest =>
      if isDigit a && isDigit b then .ok ((digitValue a, digitValue b), rest)
      else .error .unexpected
    | _ => .error .unexpected

/-- The offset from UTC in seconds, after its sign. -/
def takeHoursAndMinutes (cs : List Char) : Except Fault (Int × List Char) := do
  let ((h₁, h₂), rest) ← takePair cs
  let rest := rest.dropWhile (fun c => c == ':' || isBlank c)
  let ((m₁, m₂), rest) ← takePair rest
  if m₁ ≤ 5 then return (((h₁ * 10 + h₂) * 3600 + (m₁ * 10 + m₂) * 60 : Nat), rest)
  else throw .outOfRange

/-- The letters that mean an offset of nothing, in upper case. -/
def isUtc (cs : List Char) : Bool :=
  (cs.take 3).map Char.toUpper == ['U', 'T', 'C']

/-- The offset from UTC in seconds. -/
def takeOffset (cs : List Char) : Except Fault (Int × List Char) :=
  if isUtc cs then .ok (0, cs.drop 3)
  else match cs with
    | [] => .error .tooShort
    | c :: rest =>
      if c = 'Z' || c = 'z' then .ok (0, rest)
      else if c = '+' then takeHoursAndMinutes rest
      else if c = '-' || c = '\u2212' then do
        let (seconds, rest) ← takeHoursAndMinutes rest
        return (-seconds, rest)
      else .error .unexpected

/-- The first and the last year that a date may have. -/
def yearInReach (year : Int) : Bool := -262143 ≤ year && year ≤ 262142

/-- The point of time that a text writes. -/
def Stamp.read (s : String) : Except Fault Stamp := do
  let (year, rest) ← takeYear s.toList
  let rest ← takeMark '-' rest
  let (month, rest) ← takePart 1 12 rest
  let rest ← takeMark '-' rest
  let (day, rest) ← takePart 1 31 rest
  let rest ← match rest with
    | [] => throw .tooShort
    | c :: more => if c = 'T' || c = 't' || c = ' ' then pure more else throw .unexpected
  let (hour, rest) ← takePart 0 23 rest
  let rest ← takeMark ':' rest
  let (minute, rest) ← takePart 0 59 rest
  let rest ← takeMark ':' rest
  let (second, rest) ← takePart 0 60 rest
  let (nano, rest) ← takeFraction rest
  let (offset, rest) ← takeOffset (trimStart rest)
  unless (trimStart rest).isEmpty do throw .tooLong
  let date : Date := { year, month, day }
  unless yearInReach year && date.isReal do throw .outOfRange
  unless -86400 < offset && offset < 86400 do throw .outOfRange
  let leap := second == 60
  let localTime : Stamp :=
    { day := date.toDays
      second := hour * 3600 + minute * 60 + (if leap then 59 else second)
      nano := if leap then nano + 1000000000 else nano }
  let t := localTime.minusSeconds offset
  if yearInReach t.date.year then return t else throw .impossible

/-- The year: four digits, or a sign and at least four digits outside 0 to 9999. -/
def yearText (year : Int) : String :=
  if 0 ≤ year && year ≤ 9999 then padded 4 year.toNat
  else (if year < 0 then "-" else "+") ++ padded 4 year.natAbs

/-- The date. -/
def Stamp.dateText (t : Stamp) : String :=
  let d := t.date
  yearText d.year ++ "-" ++ padded 2 d.month ++ "-" ++ padded 2 d.day

/-- The time of day to the second. -/
def Stamp.clockText (t : Stamp) : String :=
  let (hour, minute, second) := t.clock
  padded 2 hour ++ ":" ++ padded 2 minute ++ ":" ++ padded 2 second

/-- Date, `T` and time of day to the second. -/
def Stamp.secondsText (t : Stamp) : String := t.dateText ++ "T" ++ t.clockText

/-- The fraction with the fewest digits of none, three, six and nine that are exact. -/
def Stamp.fractionText (t : Stamp) : String :=
  let n := t.fraction
  if n = 0 then ""
  else if n % 1000000 = 0 then "." ++ padded 3 (n / 1000000)
  else if n % 1000 = 0 then "." ++ padded 6 (n / 1000)
  else "." ++ padded 9 n

/-- The text that stands for the point of time in records. -/
def Stamp.text (t : Stamp) : String := t.secondsText ++ t.fractionText ++ "Z"

/-- The same text with the offset spelled out. -/
def Stamp.offsetText (t : Stamp) : String := t.secondsText ++ t.fractionText ++ "+00:00"

/-- The text cut off after milliseconds. -/
def Stamp.millisText (t : Stamp) : String :=
  t.secondsText ++ "." ++ padded 3 (t.fraction / 1000000) ++ "Z"

/-- The text cut off after microseconds. -/
def Stamp.microsText (t : Stamp) : String :=
  t.secondsText ++ "." ++ padded 6 (t.fraction / 1000) ++ "Z"

end TaskWatch.Time
