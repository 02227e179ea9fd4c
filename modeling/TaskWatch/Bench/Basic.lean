import TaskWatch.Bench.Producer
import TaskWatch.Cache.Supply
import TaskWatch.Log.Line
import TaskWatch.Time.Passing

/-! A cache together with the producers it calls and the clock it lives by.

    At each moment the jobs that are due run one after another until none is left. -/

namespace TaskWatch

open Cache

/-- A cache, its producers and its clock. -/
structure Bench (α : Type) where
  now : Nat := 0
  turn : Nat := 0
  cache : Cache α
  producers : List (Bench.Producer α)
  /-- What was reported and when, the latest first. -/
  log : List (Nat × Log.Line) := []
  /-- What the wall clock shows when the other clock is started. -/
  origin : Time.Stamp := Time.benchStart

namespace Bench

variable {α : Type}

/-- The present moment. -/
def instant (b : Bench α) : Time.Instant := .after b.origin b.now b.turn

/-- Puts lines on the log. -/
def write (lines : List Log.Line) (b : Bench α) : Bench α :=
  { b with log := lines.reverse.map (fun l => (b.now, l)) ++ b.log }

/-- Takes over the cache as it has become, and puts on the log what it reported. -/
def withCache (b : Bench α) (c : Cache α) : Bench α :=
  { b with
    turn := b.turn + 1
    cache := { c with journal := [] }
    log := c.journal.map (fun e => (b.now, e.line)) ++ b.log }

/-- Changes a producer. -/
def setProducer (b : Bench α) (i : Nat) (p : Producer α) : Bench α :=
  { b with producers := b.producers.set i p }

/-- The producers of a bench supply its cache. -/
def supplier : Supplier (List (Producer α)) α where
  call := fun i ps =>
    match ps[i]? with
    | some p => let (p, number, delay) := p.call; (ps.set i p, number, delay)
    | none => (ps, 0, none)
  reply := fun i call ps =>
    match ps[i]? with
    | some p => p.reply call
    | none => .error exhausted
  finish := fun i call ps =>
    match ps[i]? with
    | some p => ps.set i (p.finish call)
    | none => ps

/-- Runs a job that is due. -/
def run (b : Bench α) (j : Job) : Bench α :=
  let (c, producers) := b.cache.runJob supplier b.instant j b.producers
  { b with producers }.withCache c

/-- Runs jobs that are due, so many at most. -/
def runDue : Nat → Bench α → Bench α
  | 0, b => b
  | fuel + 1, b =>
    match b.cache.agenda.next? b.now with
    | none => b
    | some j => runDue fuel (b.run j)

/-- Runs jobs until none is due. A job leaves two more at most to be run at the same moment. -/
def rest (b : Bench α) : Bench α := runDue (3 * b.cache.agenda.length) b

instance : Time.Passing (Bench α) where
  wakes? := fun now b => b.cache.agenda.wakes? now
  settle := fun now b => { b with now }.rest

/-- Lets time pass. -/
def sleep (b : Bench α) (ms : Nat) : Bench α :=
  { Time.advance (b.now + ms) b.now b.rest with now := b.now + ms }

/-- Lets the clock leap. -/
def jump (b : Bench α) (ms : Nat) : Bench α := Time.leap b.now (b.now + ms) b

/-- Waits until something can be seen, for a time. What can be seen at once is seen before anything
    else happens, and who has no time to wait sees nothing else. -/
def await {β : Type} (seen : Bench α → Option β) (timeout : Nat) (b : Bench α) :
    Bench α × Option β :=
  match seen b with
  | some r => (b, some r)
  | none =>
    if timeout = 0 then (b, none)
    else
      let (now, b, r) := Time.await seen (b.now + timeout) b.now b.rest
      ({ b with now }, r)

/-- Answers a gated call of a producer, and so makes the fetch that waits for it ready. -/
def resolve (b : Bench α) (producer call : Nat) (r : Except String α) : Bench α × Bool :=
  match b.producers[producer]? with
  | none => (b, false)
  | some p =>
    let (p, done) := p.resolve call r
    if !done then (b, false)
    else
      let waits (j : Job) : Bool := match j.duty with
        | .reply _ i k => i == producer && k == call
        | _ => false
      let ready := (b.cache.agenda.filter waits).map
        (fun j => { j with due := some b.now, turn := b.turn })
      let agenda := b.cache.agenda.filter (fun j => !waits j) ++ ready
      ((b.setProducer producer p).withCache { b.cache with agenda }, true)

/-- The counts of each producer. -/
def probes (b : Bench α) : List Probe := b.producers.map Producer.probe

end Bench

end TaskWatch
