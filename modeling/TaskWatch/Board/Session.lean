import TaskWatch.Board.Basic
import TaskWatch.Cache.Supply
import TaskWatch.Time.Passing

/-! A session: the board, its task source, and the clock they live by.

    Tasks are asked for in the background. What comes of it is put in line with the other events,
    and the line holds 256 of them: an outcome that finds it full waits until there is room, and one
    that finds it closed is dropped. -/

namespace TaskWatch

open Cache Board Source

/-- A request on its way to the source. -/
structure Board.Errand where
  request : Request
  turn : Nat

/-- A board at work. -/
structure Session where
  now : Nat := 0
  turn : Nat := 0
  board : Board
  source : Memory
  errands : List Errand := []
  /-- Outcomes in line. -/
  line : List Created := []
  /-- Outcomes that wait until the line has room. -/
  waiting : List Created := []
  /-- Nobody takes outcomes off the line any more. -/
  closed : Bool := false
  /-- What the wall clock shows when the other clock is started. -/
  origin : Time.Stamp := Time.benchStart
  /-- What was reported and when, the latest first. -/
  log : List (Nat × Log.Line) := []

namespace Session

/-- How many events the line holds. -/
def lineLength : Nat := 256

/-- The present moment. -/
def instant (s : Session) : Time.Instant := .after s.origin s.now s.turn

/-- Puts a line on the log. -/
def write (l : Log.Line) (s : Session) : Session := { s with log := (s.now, l) :: s.log }

/-- Takes over the board as it has become, and puts on the log what it reported. -/
def withBoard (b : Board) (s : Session) : Session :=
  { s with
    turn := s.turn + 1
    board := { b with journal := [] }
    log := b.journal.map (fun l => (s.now, l)) ++ s.log }

/-- The source supplies the list of tasks. -/
def tasksSupplier : Supplier Memory (List Task) where
  call := fun _ m => (m, 0, some m.tasksDelay)
  reply := fun _ _ m => m.fetchTasks.mapError Fault.message
  finish := fun _ _ m => m

/-- The source supplies the headline numbers. -/
def metricsSupplier : Supplier Memory Metrics where
  call := fun _ m => (m, 0, some m.metricsDelay)
  reply := fun _ _ m => m.fetchMetrics.mapError Fault.message
  finish := fun _ _ m => m

/-- The line that reports an outcome that was dropped. -/
def droppedLine : Log.Line := .board .debug "event loop closed, dropping create outcome" []

/-- Puts an outcome in line. -/
def send (outcome : Created) (s : Session) : Session :=
  if s.closed then s.write droppedLine
  else if s.waiting.isEmpty && s.line.length < lineLength then
    { s with line := s.line ++ [outcome] }
  else { s with waiting := s.waiting ++ [outcome] }

/-- Puts outcomes that waited in line, as far as it has room. -/
def refill (s : Session) : Session :=
  if s.closed then
    { s with
      waiting := []
      log := List.replicate s.waiting.length (s.now, droppedLine) ++ s.log }
  else
    let room := lineLength - s.line.length
    { s with line := s.line ++ s.waiting.take room, waiting := s.waiting.drop room }

/-- What becomes of the answer to a request: it is reported, and its outcome put in line. -/
def answered (answer : Except Fault Task) (s : Session) : Session :=
  match answer with
  | .ok t => (s.write (Memory.createdLine t)).send (.ok t)
  | .error fault => s.send (.error fault.message)

/-- Asks a source for the task of an errand. It may be any source; `create` is how it is asked. -/
def ask {σ : Type} (create : Time.Instant → Request → σ → σ × Except Fault Task) (e : Errand)
    (source : σ) (s : Session) : σ × Session :=
  let (source, answer) := create s.instant e.request source
  (source, { s with turn := s.turn + 1 }.answered answer)

/-- Runs an errand: the source is asked for its task. -/
def runErrand (e : Errand) (s : Session) : Session :=
  let (source, s) := s.ask Memory.create e s.source
  { s with source }

/-- What is to be done next. -/
inductive Work where
  | tasks (j : Job)
  | metrics (j : Job)
  | errand (e : Errand)

/-- When a piece of work was due, and its turn. -/
def Work.rank (now : Nat) : Work → Nat × Nat
  | .tasks j => (j.due.getD now, j.turn)
  | .metrics j => (j.due.getD now, j.turn)
  | .errand e => (now, e.turn)

/-- The piece of work that comes first, of equals the first one. -/
def earlier (now : Nat) (a b : Option Work) : Option Work :=
  match a, b with
  | some v, some w =>
    let (d, t) := v.rank now
    let (e, u) := w.rank now
    if d < e || (d == e && t ≤ u) then some v else some w
  | some v, none => some v
  | none, b => b

/-- The piece of work that is to be done next, if any is due. -/
def next? (s : Session) : Option Work :=
  earlier s.now
    (earlier s.now ((s.board.tasksCache.agenda.next? s.now).map Work.tasks)
      ((s.board.metricsCache.agenda.next? s.now).map Work.metrics))
    (s.errands.head?.map Work.errand)

/-- Does a piece of work. -/
def run (w : Work) (s : Session) : Session :=
  match w with
  | .tasks j =>
    let (c, source) := s.board.tasksCache.runJob tasksSupplier s.instant j s.source
    { s with source }.withBoard (s.board.withTasks c)
  | .metrics j =>
    let (c, source) := s.board.metricsCache.runJob metricsSupplier s.instant j s.source
    { s with source }.withBoard (s.board.withMetrics c)
  | .errand e => { s with errands := s.errands.drop 1 }.runErrand e

/-- Does work that is due, so many pieces at most. -/
def runDue : Nat → Session → Session
  | 0, s => s
  | fuel + 1, s =>
    match s.next? with
    | none => s
    | some w => runDue fuel (s.run w)

/-- Does work until none is due. A job leaves two more at most to be done at the same moment. -/
def rest (s : Session) : Session :=
  let s := s.refill
  runDue (3 * (s.board.tasksCache.agenda.length + s.board.metricsCache.agenda.length)
    + s.errands.length) s

/-- The earlier of two moments, of which either may never come. -/
def sooner (a b : Option Nat) : Option Nat :=
  match a, b with
  | some x, some y => some (min x y)
  | some x, none => some x
  | none, b => b

instance : Time.Passing Session where
  wakes? := fun now s =>
    sooner (s.board.tasksCache.agenda.wakes? now) (s.board.metricsCache.agenda.wakes? now)
  settle := fun now s => { s with now }.rest

/-- Lets time pass. -/
def sleep (s : Session) (ms : Nat) : Session :=
  { Time.advance (s.now + ms) s.now s.rest with now := s.now + ms }

/-- Takes over the board as it has become, and sees to what is left to do. The answer says whether
    the program is to end. -/
def react (s : Session) (b : Board) (r : Reaction) : Session × Reaction :=
  let after := s.withBoard b
  match r with
  | .create request =>
    ({ after with errands := after.errands ++ [{ request, turn := s.turn }] }, r)
  | _ => (after, r)

/-- Handles an event. -/
def handle (s : Session) (h : Happening) : Session × Reaction :=
  let (b, r) := s.board.handle s.instant h
  s.react b r

/-- Takes everything off the line and handles it. -/
def pump (s : Session) : Session × List Created :=
  (s.line.foldl (fun t outcome => (t.handle (.created outcome)).1) { s with line := [] }, s.line)

/-- Nobody takes outcomes off the line from now on. -/
def closeLine (s : Session) : Session := { s with line := [], closed := true }

/-- Puts the source in failure mode, or takes it out of it. -/
def setFailure (s : Session) (message : Option String) : Session :=
  { s with source := { s.source with failure := message } }

end Session

end TaskWatch
