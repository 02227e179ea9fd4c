import TaskWatch.Time.Rfc3339

/-! Lines of the log.

    A line names its level and the part of the program that it comes from, and carries a message and
    fields. -/

namespace TaskWatch.Log

/-- How much a line matters. -/
inductive Level where
  | error
  | warn
  | info
  | debug
  | trace
  deriving DecidableEq, Repr

/-- The level's name, five characters wide. -/
def Level.label : Level → String
  | .error => "ERROR"
  | .warn => " WARN"
  | .info => " INFO"
  | .debug => "DEBUG"
  | .trace => "TRACE"

/-- From the least that is logged to the most: each level admits itself and those before it. -/
def Level.rank : Level → Nat
  | .error => 1
  | .warn => 2
  | .info => 3
  | .debug => 4
  | .trace => 5

/-- A part of the program that lines come from. -/
inductive Target where
  | cache
  | board
  | queries
  | source
  | setup
  | program
  deriving DecidableEq, Repr

/-- The name by which lines show where they come from. -/
def Target.name : Target → String
  | .cache => "taskboard_cache::query_cache"
  | .board => "taskboard_tui::state"
  | .queries => "taskboard_tui::queries"
  | .source => "taskboard_tui::source"
  | .setup => "taskboard_tui::logging"
  | .program => "program"

/-- A line of the log, without its time. -/
structure Line where
  target : Target
  level : Level
  message : String
  fields : List (String × String)
  deriving DecidableEq, Repr

namespace Line

/-- A line from the cache. -/
def cache : Level → String → List (String × String) → Line := Line.mk .cache

/-- A line from the board. -/
def board : Level → String → List (String × String) → Line := Line.mk .board

/-- A line from the queries of the board. -/
def queries : Level → String → List (String × String) → Line := Line.mk .queries

/-- A line from a task source. -/
def source : Level → String → List (String × String) → Line := Line.mk .source

/-- A line from the setting up of the log itself. -/
def setup : Level → String → List (String × String) → Line := Line.mk .setup

/-- A line from the program as a whole. -/
def program : Level → String → List (String × String) → Line := Line.mk .program

/-- The line as it is written at a point of time. -/
def text (time : Time.Stamp) (l : Line) : String :=
  time.microsText ++ " " ++ l.level.label ++ " " ++ l.target.name ++ ": " ++ l.message
    ++ String.join (l.fields.map (fun (name, value) => " " ++ name ++ "=" ++ value))

end Line

end TaskWatch.Log
