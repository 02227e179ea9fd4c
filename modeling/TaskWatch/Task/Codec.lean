import TaskWatch.Json.Print
import TaskWatch.Json.Record
import TaskWatch.Task.Basic

/-! Tasks, headline numbers and requests as JSON records. -/

namespace TaskWatch

open Json

/-- The words of the kinds. -/
def Kind.choices : List (String × Kind) := Kind.all.map (fun k => (k.word, k))

/-- The words of the statuses. -/
def Status.choices : List (String × Status) := Status.all.map (fun s => (s.word, s))

/-- Reads the kind of a task. -/
def readKind : Reader Kind := readVariant Kind.choices

/-- Reads the status of a task. -/
def readStatus : Reader Status := readVariant Status.choices

/-- Reads a text of any content. -/
def readString : Reader String := readText "a string"

/-- Reads a number of 8 bits. -/
def readByte : Reader UInt8 := fun cs => do
  let (n, rest) ← readNatural 255 "u8" cs
  return (UInt8.ofNat n, rest)

/-- Reads a number of 32 bits. -/
def readWord : Reader UInt32 := fun cs => do
  let (n, rest) ← readNatural 4294967295 "u32" cs
  return (UInt32.ofNat n, rest)

/-- Reads a point of time. -/
def readStamp : Reader Time.Stamp := fun cs => do
  let (s, rest) ← readText "an RFC 3339 formatted date and time string" cs
  match Time.Stamp.read s with
  | .ok t => return (t, rest)
  | .error fault => throw (.mismatch (.badTime fault))

/-- The member is there, or its name is reported. -/
def need {α : Type} (name : String) : Option α → Except String α
  | some a => .ok a
  | none => .error name

/-- Reads a member with `read` and enters it with `set`. -/
def entering {P α : Type} (read : Reader α) (set : P → α → P) : P → Reader P :=
  fun known cs => do
    let (a, rest) ← read cs
    return (set known a, rest)

/-- What is known of a task partly read. -/
structure Task.Draft where
  id : Option String := none
  name : Option String := none
  kind : Option Kind := none
  status : Option Status := none
  priority : Option UInt8 := none
  retries : Option UInt32 := none
  created : Option Time.Stamp := none

/-- The record of a task. -/
def Task.shape : Shape Task.Draft Task where
  title := "Task"
  empty := {}
  members :=
    [ { name := "id", isSet := (·.id.isSome)
        read := entering readString (fun d a => { d with id := some a }) },
      { name := "name", isSet := (·.name.isSome)
        read := entering readString (fun d a => { d with name := some a }) },
      { name := "type", isSet := (·.kind.isSome)
        read := entering readKind (fun d a => { d with kind := some a }) },
      { name := "status", isSet := (·.status.isSome)
        read := entering readStatus (fun d a => { d with status := some a }) },
      { name := "priority", isSet := (·.priority.isSome)
        read := entering readByte (fun d a => { d with priority := some a }) },
      { name := "retries", isSet := (·.retries.isSome)
        read := entering readWord (fun d a => { d with retries := some a }) },
      { name := "createdAt", isSet := (·.created.isSome)
        read := entering readStamp (fun d a => { d with created := some a }) } ]
  build := fun d => do
    let id ← need "id" d.id
    let name ← need "name" d.name
    let kind ← need "type" d.kind
    let status ← need "status" d.status
    let priority ← need "priority" d.priority
    let retries ← need "retries" d.retries
    let created ← need "createdAt" d.created
    return { id, name, kind, status, priority, retries, created }

/-- Reads a task. -/
def readTask : Reader Task := readRecord Task.shape

/-- Reads a list of tasks. -/
def readTasks : Reader (List Task) := readList readTask

/-- The record of a task as text. -/
def Task.text (t : Task) : String :=
  object
    [ ("id", string t.id), ("name", string t.name), ("type", string t.kind.word),
      ("status", string t.status.word), ("priority", toString t.priority),
      ("retries", toString t.retries), ("createdAt", string t.created.text) ]

/-- What is known of headline numbers partly read. -/
structure Metrics.Draft where
  total : Option UInt32 := none
  running : Option UInt32 := none
  completed : Option UInt32 := none
  failed : Option UInt32 := none

/-- The record of headline numbers. -/
def Metrics.shape : Shape Metrics.Draft Metrics where
  title := "DashboardMetrics"
  empty := {}
  members :=
    [ { name := "totalTasks", isSet := (·.total.isSome)
        read := entering readWord (fun d a => { d with total := some a }) },
      { name := "running", isSet := (·.running.isSome)
        read := entering readWord (fun d a => { d with running := some a }) },
      { name := "completedToday", isSet := (·.completed.isSome)
        read := entering readWord (fun d a => { d with completed := some a }) },
      { name := "failed", isSet := (·.failed.isSome)
        read := entering readWord (fun d a => { d with failed := some a }) } ]
  build := fun d => do
    let total ← need "totalTasks" d.total
    let running ← need "running" d.running
    let completed ← need "completedToday" d.completed
    let failed ← need "failed" d.failed
    return { total, running, completed, failed }

/-- Reads headline numbers. -/
def readMetrics : Reader Metrics := readRecord Metrics.shape

/-- The record of headline numbers as text. -/
def Metrics.text (m : Metrics) : String :=
  object
    [ ("totalTasks", toString m.total), ("running", toString m.running),
      ("completedToday", toString m.completed), ("failed", toString m.failed) ]

/-- What is known of a request partly read. -/
structure Request.Draft where
  name : Option String := none
  kind : Option Kind := none
  priority : Option UInt8 := none

/-- The record of a request. -/
def Request.shape : Shape Request.Draft Request where
  title := "CreateTaskRequest"
  empty := {}
  members :=
    [ { name := "name", isSet := (·.name.isSome)
        read := entering readString (fun d a => { d with name := some a }) },
      { name := "type", isSet := (·.kind.isSome)
        read := entering readKind (fun d a => { d with kind := some a }) },
      { name := "priority", isSet := (·.priority.isSome)
        read := entering readByte (fun d a => { d with priority := some a }) } ]
  build := fun d => do
    let name ← need "name" d.name
    let kind ← need "type" d.kind
    let priority ← need "priority" d.priority
    return { name, kind, priority }

/-- Reads a request. -/
def readRequest : Reader Request := readRecord Request.shape

/-- The record of a request as text. -/
def Request.text (r : Request) : String :=
  object
    [ ("name", string r.name), ("type", string r.kind.word), ("priority", toString r.priority) ]

end TaskWatch
