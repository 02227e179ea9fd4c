import TaskWatch.Board.Session
import TaskWatch.Config.Read
import TaskWatch.Log.File
import TaskWatch.Source.Server

/-! How the program starts.

    It loads the settings, sets up the log, makes the task source ready, restores the selection, and
    lets the board take an interest in its queries. The first of these that fails ends the program,
    except that a selection that cannot be loaded is only reported. -/

namespace TaskWatch

open Files Source

/-- A task source of either kind. -/
inductive AnySource where
  | memory (m : Memory)
  | server (s : Server)

/-- The task source that the settings ask for. -/
def Config.source (c : Config) : Except Source.Fault AnySource :=
  match c.origin with
  | .memory => .ok (.memory (.ofTasks sampleTasks c.tasksDelay c.metricsDelay))
  | .server => (Server.make c.baseUrl c.apiKey c.token).map .server

/-- The line that reports a task source that is ready. -/
def Config.sourceLine (c : Config) : Log.Line :=
  .source .info "task source ready" [("source", c.origin.name)]

/-- The line that reports a selection that cannot be loaded. -/
def unreadableLine (fault : Board.Saved.Fault) : Log.Line :=
  .program .warn "ignoring unreadable UI state" [("error", fault.message)]

/-- A board as the settings ask for it. -/
def Config.board (c : Config) : Board := .make c.grace c.tasksOptions c.metricsOptions

/-- What stands around the program: its arguments, the environment, and the time. -/
structure Surroundings where
  arguments : List String
  /-- Where the settings are, if the arguments do not say. -/
  configPath : Option String
  /-- What is to be logged. -/
  filter : Option String
  time : Time.Instant

/-- A program that has started. -/
structure Running where
  config : Config
  source : AnySource
  board : Board

/-- The board as it is at the start, with what was reported, the latest first. -/
def startBoard (now : Time.Instant) (c : Config) (d : Disk) : Board :=
  let board := match Board.Saved.load d (.ofText c.statePath) with
    | .ok (some saved) => saved.restore c.board
    | .ok none => c.board
    | .error fault => c.board.report (unreadableLine fault)
  board.start now

/-- Starts the program. -/
def startUp (s : Surroundings) (d : Disk) : Disk × Except Failure Running :=
  match Config.load s.arguments s.configPath d with
  | .error fault => (d, .error (.config fault))
  | .ok c =>
    match Log.setUp false d c.logPath with
    | (d, .error failure) => (d, .error failure)
    | (d, .ok ()) =>
      let write (lines : List Log.Line) (d : Disk) : Disk :=
        Log.writeLines (.ofEnvironment s.filter) c.logPath (lines.map (fun l => (s.time.wall, l))) d
      let begun := write [Log.begunLine c.logPath] d
      match c.source with
      | .error fault => (begun, .error (.source fault))
      | .ok source =>
        let ready := write [c.sourceLine] begun
        let board := startBoard s.time c ready
        (write board.journal.reverse ready, .ok { config := c, source, board := { board with journal := [] } })

/-- Starts the program where there is no terminal to draw on, so that it ends right after. -/
def startUpBlind (s : Surroundings) (d : Disk) : Disk × Failure :=
  match startUp s d with
  | (d, .error failure) => (d, failure)
  | (d, .ok _) => (d, .io (.other "No such device or address (os error 6)"))

end TaskWatch
