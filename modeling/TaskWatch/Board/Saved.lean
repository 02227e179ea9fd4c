import TaskWatch.Board.Basic
import TaskWatch.Files.Disk
import TaskWatch.Json.Print
import TaskWatch.Task.Codec

/-! What of the board outlives the program: which task is selected.

    It is written to a file beside the one it is kept in, which then takes that one's place, so a
    write that is broken off leaves the old file as it was. -/

namespace TaskWatch.Board

open Files

/-- What outlives the program. -/
structure Saved where
  selected : Option String
  deriving DecidableEq, Repr

namespace Saved

/-- What is known of a record partly read. -/
structure Draft where
  selected : Option (Option String) := none

/-- The record. Its only member may be missing. -/
def shape : Json.Shape Draft Saved where
  title := "PersistedState"
  empty := {}
  members :=
    [ { name := "selected_task_id", isSet := (·.selected.isSome), optional := true
        read := entering (Json.readOptional readString) (fun d a => { d with selected := some a }) } ]
  build := fun d => .ok { selected := d.selected.getD none }

/-- The record as text. -/
def text (s : Saved) : String :=
  Json.spreadObject [("selected_task_id", (s.selected.map Json.string).getD "null")]

/-- Why it cannot be loaded. -/
inductive Fault where
  | file (fault : Files.Fault)
  | record (fault : Json.Fault)
  deriving DecidableEq

/-- Loads it, if there is a file. -/
def load (d : Disk) (p : Path) : Except Fault (Option Saved) :=
  match d.readText p with
  | .error .missing => .ok none
  | .error fault => .error (.file fault)
  | .ok s =>
    match Json.decode (Json.readRecord shape) s with
    | .ok saved => .ok (some saved)
    | .error fault => .error (.record fault)

/-- The file that is written first. -/
def staging (p : Path) : Path := p.withEnding ".tmp"

/-- Saves it, and makes the folders that are missing on the way. -/
def save (s : Saved) (d : Disk) (p : Path) : Disk × Except Files.Fault Unit :=
  d.attempt (Disk.parentSteps p ++
    [ (·.write (staging p) s.text.toUTF8),
      (·.rename (staging p) p) ])

/-- What of a board outlives the program. -/
def ofBoard (b : Board) : Saved := { selected := b.selected }

/-- The board with the selection there was before. A task that is gone gives way to the first one
    once the tasks are known. -/
def restore (s : Saved) (b : Board) : Board := { b with selected := s.selected }

end Saved

end TaskWatch.Board
