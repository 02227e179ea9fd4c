import TaskWatch.Source.Fault
import TaskWatch.Source.Url
import TaskWatch.Task.Codec
import TaskWatch.Text.Blank
import TaskWatch.Text.Utf8

/-! A task source that asks a server.

    The server lists tasks and creates them. It has no headline numbers, so these are drawn from the
    list. It may wrap the list in a record. -/

namespace TaskWatch.Source

/-- A server, and the secrets that are shown to it. -/
structure Server where
  /-- Where it is, without a slash at the end. -/
  base : String
  apiKey : Option String
  authorization : Option String
  deriving DecidableEq, Repr

/-- A character that a secret may hold. -/
def isHeaderChar (c : Char) : Bool := c == '\t' || (0x20 ≤ c.toNat && c.toNat ≠ 0x7F)

/-- A secret that can be sent. -/
def checked (secret : Option String) : Except Fault (Option String) :=
  if secret.all (fun s => s.toList.all isHeaderChar) then .ok secret
  else .error (.misconfigured "failed to parse header value")

/-- A text without the slashes at its end. -/
def withoutSlashes (s : String) : String :=
  String.ofList (s.toList.reverse.dropWhile (· == '/')).reverse

/-- A secret as a server reads it, without the blanks around it. -/
def headerValue (s : String) : String :=
  let blank (c : Char) : Bool := c == ' ' || c == '\t'
  String.ofList ((s.toList.dropWhile blank).reverse.dropWhile blank).reverse

/-- What a server is asked. -/
structure Asked where
  method : String
  url : String
  apiKey : Option String
  authorization : Option String
  contentType : Option String
  body : String
  deriving DecidableEq, Repr

/-- What a server answers: nothing, if it hangs up. -/
inductive Reply where
  | nothing
  | response (status : Nat) (body : List UInt8)

/-- The first line of what a server is asked, if there is a server at the address. -/
def Asked.line? (a : Asked) : Option String := (target? a.url).map (fun t => a.method ++ " " ++ t)

namespace Server

/-- The server at a place, which must be given. -/
def make (baseUrl apiKey token : Option String) : Except Fault Server :=
  match baseUrl with
  | none => .error (.misconfigured "api_base_url is not set")
  | some url => do
    let apiKey ← checked apiKey
    let authorization ← checked (token.map ("Bearer " ++ ·))
    return { base := withoutSlashes url, apiKey, authorization }

/-- Where its tasks are. -/
def tasksUrl (s : Server) : String := s.base ++ "/api/v1/tasks"

/-- Asks for the tasks. -/
def askTasks (s : Server) : Asked :=
  { method := "GET", url := s.tasksUrl, apiKey := s.apiKey.map headerValue
    authorization := s.authorization.map headerValue, contentType := none, body := "" }

/-- Asks for a task to be created. -/
def askCreate (s : Server) (r : Request) : Asked :=
  { method := "POST", url := s.tasksUrl, apiKey := s.apiKey.map headerValue
    authorization := s.authorization.map headerValue
    contentType := some "application/json", body := r.text }

end Server

/-- A status that says that all went well. -/
def isGood (status : Nat) : Bool := 200 ≤ status && status ≤ 299

/-- A status after which no body follows. -/
def hasNoBody (status : Nat) : Bool := status == 101 || status == 204 || status == 304

/-- A status that only announces another answer. -/
def isInterim (status : Nat) : Bool := 100 ≤ status && status ≤ 199 && status != 101

/-- A status has three digits, and the first is not zero. -/
def isStatus (status : Nat) : Bool := 100 ≤ status && status ≤ 999

/-- The fault that a status and the text after it report. -/
def refusal (status : Nat) (text : String) : Fault :=
  let message := Text.trimmed text
  .unexpected ("HTTP " ++ toString status ++ (if message.isEmpty then "" else ": " ++ message))

/-- A final answer as it arrives. -/
structure Answer where
  status : Nat
  text : String
  deriving DecidableEq, Repr

/-- The final answer that arrives, if one does. -/
def Reply.answer? : Reply → Option Answer
  | .nothing => none
  | .response status body =>
    if isInterim status || !isStatus status then none
    else some { status, text := Text.ofOctets (if hasNoBody status then [] else body) }

/-- The text of a good answer. -/
def Answer.content (a : Answer) : Except Fault String :=
  if isGood a.status then .ok a.text else .error (refusal a.status a.text)

/-- The record in which a list of tasks may be wrapped. -/
def wrapping : Json.Shape (Option (List Task)) (List Task) where
  title := "Tasks"
  empty := none
  members := [{ name := "tasks", isSet := Option.isSome
                read := entering readTasks (fun _ ts => some ts) }]
  build := need "tasks"

/-- Reads the record in which a list of tasks may be wrapped. -/
def readWrapped : Json.Reader (List Task) := fun cs =>
  match Json.skipSpace cs with
  | '\x7b' :: rest => Json.readRecord wrapping ('\x7b' :: rest)
  | _ => .error .malformed

/-- A list of tasks in either form. A text that breaks the grammar is told apart from one that fits
    neither form. -/
def readTaskList : Json.Reader (List Task) := fun cs =>
  match Json.check cs with
  | .error fault => .error fault
  | .ok _ =>
    match readTasks cs with
    | .ok found => .ok found
    | .error _ =>
      match readWrapped cs with
      | .ok found => .ok found
      | .error _ => .error (.mismatch (.noShape "untagged enum TaskListBody"))

/-- Reads the text of a good answer. -/
def Answer.decode {α : Type} (a : Answer) (read : Json.Reader α) : Except Fault α := do
  match Json.decode read (← a.content) with
  | .ok value => return value
  | .error fault => throw (.unreadable fault)

/-- The tasks that an answer lists. -/
def Answer.tasks (a : Answer) : Except Fault (List Task) := a.decode readTaskList

/-- The headline numbers of the tasks that an answer lists. -/
def Answer.metrics (a : Answer) : Except Fault Metrics := a.tasks.map Metrics.ofTasks

/-- The task that an answer says was created. -/
def Answer.created (a : Answer) : Except Fault Task := a.decode readTask

/-- What is read from the answer, if one arrives. -/
def Reply.read {α : Type} (r : Reply) (take : Answer → Except Fault α) : Except Fault α :=
  match r.answer? with
  | some a => take a
  | none => .error .transport

/-- The tasks that a server lists. -/
def Reply.tasks (r : Reply) : Except Fault (List Task) := r.read Answer.tasks

/-- The headline numbers of the tasks that a server lists. -/
def Reply.metrics (r : Reply) : Except Fault Metrics := r.read Answer.metrics

/-- The task that a server says it created. -/
def Reply.created (r : Reply) : Except Fault Task := r.read Answer.created

end TaskWatch.Source
