import TaskWatch.Json.Fault

/-! Why a task source cannot answer. -/

namespace TaskWatch.Source

/-- Why a task source cannot answer. -/
inductive Fault where
  /-- The request did not come through. -/
  | transport
  /-- The answer cannot be read. -/
  | unreadable (fault : Json.Fault)
  /-- The answer is not one that was wanted. -/
  | unexpected (text : String)
  /-- The source is set up wrongly. -/
  | misconfigured (text : String)
  /-- The source says so itself. -/
  | unavailable (text : String)
  deriving DecidableEq

/-- The wording of what cannot be read. -/
def unreadableText : Json.Fault → String
  | .ended => "unexpected end of text"
  | .malformed => "malformed text"
  | .mismatch m => m.message

/-- The wording of a fault. -/
def Fault.message : Fault → String
  | .transport => "HTTP error"
  | .unreadable fault => "Serialization error: " ++ unreadableText fault
  | .unexpected text => "Unexpected response: " ++ text
  | .misconfigured text => "Config error: " ++ text
  | .unavailable text => text

end TaskWatch.Source
