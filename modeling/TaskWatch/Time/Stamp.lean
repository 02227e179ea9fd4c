import TaskWatch.Time.Calendar

/-! Points of civil time in UTC, to the nanosecond.

    A leap second belongs to the second before it: within it the nanoseconds count on from
    1 000 000 000, and only the second shown is 60. -/

namespace TaskWatch.Time

/-- A point of time in UTC: the day counted from 1 January 1970, the second of that day, and the
    nanoseconds since that second began. -/
structure Stamp where
  day : Int
  second : Nat
  nano : Nat
  deriving DecidableEq, Repr, Inhabited

namespace Stamp

/-- The date the stamp falls on. -/
def date (t : Stamp) : Date := Date.ofDays t.day

/-- Hour, minute and second as shown; the second is 60 within a leap second. -/
def clock (t : Stamp) : Nat × Nat × Nat :=
  (t.second / 3600, t.second / 60 % 60, t.second % 60 + t.nano / 1000000000)

/-- The nanoseconds of the second shown. -/
def fraction (t : Stamp) : Nat := t.nano % 1000000000

/-- The stamp of a date and a time of that day. -/
def civil (year : Int) (month day hour minute second : Nat) : Stamp :=
  { day := Date.toDays ⟨year, month, day⟩, second := hour * 3600 + minute * 60 + second, nano := 0 }

/-- The stamp so many milliseconds later. -/
def plusMillis (t : Stamp) (ms : Nat) : Stamp :=
  let nanos := t.nano + ms % 1000 * 1000000
  let seconds := t.second + ms / 1000 + nanos / 1000000000
  { day := t.day + (seconds / 86400 : Nat), second := seconds % 86400, nano := nanos % 1000000000 }

/-- The stamp so many seconds of offset earlier; a leap second stays one. -/
def minusSeconds (t : Stamp) (offset : Int) : Stamp :=
  let seconds : Int := t.second - offset
  { t with day := t.day + seconds / 86400, second := (seconds % 86400).toNat }

end Stamp

end TaskWatch.Time
