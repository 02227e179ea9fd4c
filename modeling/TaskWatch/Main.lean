import Std.Time.DateTime.Timestamp
import TaskWatch.StartUp

/-! The program as a command line starts it.

    The files that play a part in the start are taken over into a tree, the program starts on the
    tree, and the log is brought back. There is no terminal to draw on here, so that is how the
    program ends unless something else ends it before. -/

namespace TaskWatch

open Files

/-- The text of a way, which begins at the top if that of the path does. -/
def wayText (path : String) (names : List String) : String :=
  (if path.startsWith "/" then "/" else "") ++ Path.text names

/-- What stands at the end of a way. -/
def itemAt (way : String) : IO (Option Item) := do
  try
    if ← (← IO.FS.realPath way).isDir then return some .folder
    else return some (.file (← IO.FS.readBinFile way))
  catch _ => return none

/-- Takes over a file, with the folders on the way to it. -/
def takeOver (d : Disk) (path : String) : IO Disk :=
  let names := (Path.ofText path).names
  (List.range names.length).foldlM (fun d n => do
    let way := names.take (n + 1)
    match ← itemAt (wayText path way) with
    | some item => return d.put (way.foldl Disk.step []) item
    | none => return d) d

/-- Brings a file back, with the folders on the way to it. -/
def bringBack (d : Disk) (path : String) : IO Unit := do
  let names := (Path.ofText path).names
  match d.readBytes (.ofText path) with
  | .ok content =>
    if 1 < names.length then IO.FS.createDirAll (wayText path names.dropLast)
    IO.FS.writeBinFile path content
  | .error _ => return ()

/-- What the wall clock shows. -/
def wallClock : IO Time.Stamp := do
  let nanos := (← Std.Time.Timestamp.now).toNanosecondsSinceUnixEpoch.toInt
  let seconds := nanos / 1000000000
  return { day := seconds / 86400, second := (seconds % 86400).toNat, nano := (nanos % 1000000000).toNat }

/-- Starts the program and returns how it ended. -/
def runProgram (arguments : List String) : IO Failure := do
  let configPath ← IO.getEnv "TASKBOARD_CONFIG"
  let filter ← IO.getEnv "TASKBOARD_LOG"
  let wall ← wallClock
  let d ← (Config.path? arguments configPath).toList.foldlM takeOver {}
  let config := (Config.load arguments configPath d).toOption
  let d ← (config.toList.flatMap (fun c => [c.statePath, c.logPath])).foldlM takeOver d
  let (d, failure) := startUpBlind { arguments, configPath, filter, time := { elapsed := 0, wall } } d
  config.toList.forM (fun c => bringBack d c.logPath)
  return failure

end TaskWatch

/-- Starts the program, and tells why it ended. -/
def main (arguments : List String) : IO UInt32 := do
  let failure ← TaskWatch.runProgram arguments
  IO.eprintln ("Error: " ++ failure.message)
  return 1
