import TaskWatch.Failure
import TaskWatch.Log.Filter

/-! The file that the log goes to.

    It is opened once, and what it holds already stays. Folders that are missing on the way to it are
    made. -/

namespace TaskWatch.Log

open Files

/-- Makes the file ready. -/
def openFile (d : Disk) (p : Path) : Disk × Except Files.Fault Unit :=
  d.attempt (Disk.parentSteps p ++ [(·.append p .empty)])

/-- The line that reports that the log has begun. -/
def begunLine (path : String) : Line := .setup .info "logging initialized" [("log_path", path)]

/-- Sets up the log. It can be set up once. -/
def setUp (already : Bool) (d : Disk) (path : String) : Disk × Except Failure Unit :=
  match openFile d (.ofText path) with
  | (d, .error fault) => (d, .error (.io fault))
  | (d, .ok ()) =>
    if already then (d, .error (.logging "a global default trace dispatcher has already been set"))
    else (d, .ok ())

/-- Writes lines to the file, those that the filter admits. -/
def writeLines (f : Filter) (path : String) (lines : List (Time.Stamp × Line)) (d : Disk) : Disk :=
  let admitted := lines.filter (fun (_, l) => f.admits l)
  let text := String.join (admitted.map (fun (time, l) => l.text time ++ "\n"))
  match d.append (.ofText path) text.toUTF8 with
  | .ok d => d
  | .error _ => d

end TaskWatch.Log
