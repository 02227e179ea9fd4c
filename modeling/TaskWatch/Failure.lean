import TaskWatch.Board.Saved
import TaskWatch.Cache.Basic
import TaskWatch.Config.Basic
import TaskWatch.Source.Fault

/-! Why the program ends, and how that is worded. -/

namespace TaskWatch

/-- The wording of settings that cannot be had. -/
def Config.Fault.message : Config.Fault → String
  | .noPath => "Missing configuration file path (use --config or TASKBOARD_CONFIG)"
  | .unreadable fault => "Failed to read config file: " ++ fault.text
  | .malformed => "Failed to parse config TOML"
  | .invalid setting reason => Config.invalidText setting reason

/-- The wording of a selection that cannot be loaded. -/
def Board.Saved.Fault.message : Board.Saved.Fault → String
  | .file fault => "Failed to access UI state file: " ++ fault.text
  | .record fault => "UI state file is not valid JSON: " ++ Source.unreadableText fault

/-- Why the program ends. -/
inductive Failure where
  | io (fault : Files.Fault)
  | config (fault : Config.Fault)
  | source (fault : Source.Fault)
  | cache (misuse : Cache.Misuse)
  | saved (fault : Board.Saved.Fault)
  | logging (text : String)

/-- The wording of a failure. -/
def Failure.message : Failure → String
  | .io fault => "IO error: " ++ fault.text
  | .config fault => fault.message
  | .source fault => fault.message
  | .cache misuse => misuse.message
  | .saved fault => fault.message
  | .logging text => "Failed to initialize logging: " ++ text

end TaskWatch
