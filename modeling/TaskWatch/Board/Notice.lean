import TaskWatch.Time.Stamp

/-! Notices that the board shows. -/

namespace TaskWatch.Board

/-- What kind of news a notice is. -/
inductive NoticeLevel where
  | info
  | warning
  | error
  | success
  deriving DecidableEq, Repr

namespace NoticeLevel

/-- The level's name. -/
def name : NoticeLevel → String
  | .info => "Info"
  | .warning => "Warning"
  | .error => "Error"
  | .success => "Success"

/-- The label that stands before the message. -/
def label : NoticeLevel → String
  | .info => "INFO"
  | .warning => "WARN"
  | .error => "ERROR"
  | .success => "SUCCESS"

end NoticeLevel

/-- A notice. -/
structure Notice where
  level : NoticeLevel
  message : String
  created : Time.Stamp
  deriving DecidableEq, Repr

/-- The most notices that are kept. -/
def mostNotices : Nat := 50

/-- Adds a notice; of too many the oldest is dropped. -/
def addNotice (notices : List Notice) (n : Notice) : List Notice :=
  let all := notices ++ [n]
  if all.length > mostNotices then all.drop 1 else all

end TaskWatch.Board
