import TaskWatch.Time.Stamp

/-! The present moment, as two clocks show it.

    Ages and deadlines are counted on a clock that is never set back. What is shown to people is read
    off the wall clock. Of several things that happen at one moment, each later one is given a higher
    turn. -/

namespace TaskWatch.Time

/-- What the wall clock shows when a bench starts the other clock, unless told otherwise. -/
def benchStart : Stamp := Stamp.civil 2025 9 1 12 0 0

/-- The present moment. -/
structure Instant where
  /-- Milliseconds since the clock was started. -/
  elapsed : Nat
  /-- What the wall clock shows. -/
  wall : Stamp
  /-- How much has happened before. -/
  turn : Nat := 0
  deriving Repr

/-- The moment so many milliseconds after the wall clock showed `origin`. -/
def Instant.after (origin : Stamp) (elapsed turn : Nat) : Instant :=
  { elapsed, wall := origin.plusMillis elapsed, turn }

end TaskWatch.Time
