import TaskWatch.Cache.Fetch

/-! Scheduled fetches.

    A query is fetched again and again while a subscriber asks for it, at the shortest interval that
    one asks for. Whenever that interval changes, the timer is started afresh. -/

namespace TaskWatch.Cache

variable {α : Type}

/-- Puts the timer of an entry in line with the intervals its subscribers ask for. -/
def reschedule (now : Time.Instant) (k : Key) (c : Cache α) : Cache α :=
  match c.slots.find? k with
  | none => c
  | some s =>
    if s.period?.isSome && s.timer.map Timer.period == s.period? then c
    else
      let stopped := match s.timer with
        | some timer => (c.abort now timer.job).report (.timerCancelled k)
        | none => c
      match s.period? with
      | none => stopped.setSlot k { s with timer := none }
      | some period =>
        let timer : Timer := { period, job := stopped.nextJob }
        ((stopped.spawn now k (.poll period) (now.elapsed + period)).setSlot k
          { s with timer := some timer }).report (.timerScheduled k period)

/-- How much later than its deadline a timer may fire and still keep its grid, in milliseconds. -/
def tolerance : Nat := 5

/-- When a timer is due again that was due at `due` and fires now. -/
def nextTick (now period due : Nat) : Nat :=
  if due + tolerance < now then now + period else due + period

/-- The deadlines that a timer passes at once which fires now, the first being `due`; the last
    number is the one still ahead. -/
def ticks (now period : Nat) : Nat → Nat → Nat × Nat
  | 0, due => (1, nextTick now period due)
  | fuel + 1, due =>
    let following := nextTick now period due
    if following ≤ now then
      let (n, last) := ticks now period fuel following
      (n + 1, last)
    else (1, following)

/-- Starts a scheduled fetch, unless one is in flight. -/
def scheduledFetch (now : Time.Instant) (k : Key) (c : Cache α) : Cache α :=
  let (started, done) := c.startFetch now k false
  if done then started else started.report (.skipped k)

/-- Repeats a change. -/
def repeated (f : Cache α → Cache α) : Nat → Cache α → Cache α
  | 0, c => c
  | n + 1, c => repeated f n (f c)

/-- Runs the timer of an entry: it moves to the end of the agenda to wait for another period, and a
    fetch is started. -/
def tick (now : Time.Instant) (j : Job) (period : Nat) (c : Cache α) : Cache α :=
  let due := j.due.getD now.elapsed
  let (n, following) := ticks now.elapsed period (now.elapsed - due) due
  let waiting : Job := { j with due := some following, turn := now.turn }
  repeated (scheduledFetch now j.key) n { c with agenda := c.agenda.remove j.number ++ [waiting] }

end TaskWatch.Cache
