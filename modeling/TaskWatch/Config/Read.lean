import TaskWatch.Config.Basic
import TaskWatch.Toml.Document

/-! Reading the settings.

    They stand in a TOML document, which is named on the command line or else by the environment.
    Every setting must be given, except the server's place and the secrets, and nothing else may be.
    A group of settings may also be given as a list of their values in order. -/

namespace TaskWatch.Config

open Toml

/-- The values of a group of settings in the order of their names, where a name stands for at most
    one value. A list stands for its first values, and must have one for each name. -/
def group (names : List String) : Value → Option (List (Option Value))
  | .table _ es =>
    if es.all (fun (name, _) => names.contains name) then some (names.map (fun n => es.lookup n)) else none
  | .list vs => if names.length ≤ vs.length then some ((vs.take names.length).map some) else none
  | _ => none

/-- A text. -/
def text? : Value → Option String
  | .text s => some s
  | _ => none

/-- A number that is not negative. -/
def natural? : Value → Option Nat
  | .integer n => if 0 ≤ n then some n.toNat else none
  | _ => none

/-- A value that must be given. -/
def required {α : Type} (f : Value → Option α) (v : Option Value) : Option α := v.bind f

/-- A value that may be left out. -/
def optional {α : Type} (f : Value → Option α) : Option Value → Option (Option α)
  | some v => (f v).map some
  | none => some none

/-- The origin that a word stands for. -/
def originOf? (word : String) : Option Origin :=
  if word = "mock" then some .memory else if word = "http" then some .server else none

/-- Nothing is in it. -/
def isEmptyGroup : Value → Bool
  | .table _ es => es.isEmpty
  | .list vs => vs.isEmpty
  | _ => false

/-- An origin: its word, or a table that holds nothing but an empty one under that word. -/
def origin? : Value → Option Origin
  | .text s => originOf? s
  | .table _ [(word, v)] => if isEmptyGroup v then originOf? word else none
  | _ => none

/-- The secrets for the server. -/
def secrets? (v : Value) : Option (Option String × Option String) := do
  match ← group ["api_key", "jwt"] v with
  | [apiKey, token] => return (← optional text? apiKey, ← optional text? token)
  | _ => none

/-- Intervals of both queries, when data is stale, and how long unused entries are kept. -/
def intervals? (v : Value) : Option (Nat × Nat × Nat × Nat) := do
  let names :=
    ["tasks_refetch_interval_ms", "metrics_refetch_interval_ms", "stale_time_ms", "gc_time_ms"]
  match ← group names v with
  | [tasks, metrics, stale, grace] =>
    return (← required natural? tasks, ← required natural? metrics, ← required natural? stale,
      ← required natural? grace)
  | _ => none

/-- The delays of the list in memory. -/
def delays? (v : Value) : Option (Nat × Nat) := do
  match ← group ["tasks_delay_ms", "metrics_delay_ms"] v with
  | [tasks, metrics] => return (← required natural? tasks, ← required natural? metrics)
  | _ => none

/-- The names of the settings in the outermost table. -/
def topNames : List String :=
  ["source", "api_base_url", "auth", "request_timeout_ms", "queries", "mock", "tick_rate_ms",
   "persistence_path", "error_log_path"]

/-- The settings in the tables of a document. -/
def ofEntries? (es : Entries) : Option Config := do
  if es.any (fun (name, _) => !topNames.contains name) then none
  let get (name : String) : Option Value := es.lookup name
  let origin ← required origin? (get "source")
  let baseUrl ← optional text? (get "api_base_url")
  let (apiKey, token) ← required secrets? (get "auth")
  let timeout ← required natural? (get "request_timeout_ms")
  let (tasksInterval, metricsInterval, stale, grace) ← required intervals? (get "queries")
  let (tasksDelay, metricsDelay) ← required delays? (get "mock")
  let tick ← required natural? (get "tick_rate_ms")
  let statePath ← required text? (get "persistence_path")
  let logPath ← required text? (get "error_log_path")
  return { origin, baseUrl, apiKey, token, timeout, tick, statePath, logPath, tasksInterval,
           metricsInterval, stale, grace, tasksDelay, metricsDelay }

/-- The settings that a document gives. -/
def ofText (s : String) : Except Fault Config :=
  match (Toml.read s).bind ofEntries? with
  | some c => .ok c
  | none => .error .malformed

/-- The path after the first `--config` on the command line. -/
def pathOnLine? : List String → Option String
  | [] => none
  | "--config" :: rest => rest.head?
  | _ :: rest => pathOnLine? rest

/-- The path of the document. The command line goes before the environment. -/
def path? (arguments : List String) (environment : Option String) : Option String :=
  pathOnLine? arguments <|> environment

/-- The settings, checked. -/
def load (arguments : List String) (environment : Option String) (d : Files.Disk) :
    Except Fault Config :=
  match path? arguments environment with
  | none => .error .noPath
  | some path =>
    match d.readText (.ofText path) with
    | .error fault => .error (.unreadable fault)
    | .ok s =>
      match ofText s with
      | .error fault => .error fault
      | .ok c => c.check.map (fun _ => c)

end TaskWatch.Config
