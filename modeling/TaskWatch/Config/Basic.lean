import TaskWatch.Cache.Interest
import TaskWatch.Files.Disk
import TaskWatch.Text.Blank

/-! The settings of the board, and the rules they must keep. -/

namespace TaskWatch

/-- Where tasks come from. -/
inductive Origin where
  /-- From a list in memory. -/
  | memory
  /-- From a server. -/
  | server
  deriving DecidableEq, Repr

/-- The name of an origin, as it is reported. -/
def Origin.name : Origin → String
  | .memory => "Mock"
  | .server => "Http"

/-- The settings. Times are in milliseconds. -/
structure Config where
  origin : Origin
  /-- Where the server is. -/
  baseUrl : Option String
  apiKey : Option String
  token : Option String
  /-- How long an answer is waited for. -/
  timeout : Nat
  /-- How often the screen is drawn. -/
  tick : Nat
  statePath : String
  logPath : String
  tasksInterval : Nat
  metricsInterval : Nat
  stale : Nat
  grace : Nat
  /-- How long the list in memory takes to answer with tasks. -/
  tasksDelay : Nat
  /-- How long the list in memory takes to answer with headline numbers. -/
  metricsDelay : Nat
  deriving DecidableEq, Repr

namespace Config

/-- A setting that can break a rule. -/
inductive Setting where
  | baseUrl
  | timeout
  | tick
  | statePath
  | logPath
  | apiKey
  | token
  deriving DecidableEq, Repr

/-- The name of a setting. -/
def Setting.name : Setting → String
  | .baseUrl => "api_base_url"
  | .timeout => "request_timeout_ms"
  | .tick => "tick_rate_ms"
  | .statePath => "persistence_path"
  | .logPath => "error_log_path"
  | .apiKey => "auth.api_key"
  | .token => "auth.jwt"

/-- Why there are no settings. -/
inductive Fault where
  /-- Nobody says where they are. -/
  | noPath
  | unreadable (fault : Files.Fault)
  /-- They do not have the form they should. -/
  | malformed
  /-- A setting breaks a rule. -/
  | invalid (setting : Setting) (reason : String)
  deriving DecidableEq, Repr

/-- The wording of a setting that breaks a rule. -/
def invalidText (setting : Setting) (reason : String) : String :=
  "Invalid config value for " ++ setting.name ++ ": " ++ reason

/-- The rule that a setting breaks, and why. -/
abbrev Breach := Option (Setting × String)

/-- What the server's place breaks. -/
def urlBreach (c : Config) : Breach :=
  if c.origin ≠ .server then none
  else
    let url := Text.trimmed (c.baseUrl.getD "")
    if url.isEmpty then some (.baseUrl, "required when source is \"http\"")
    else if url.startsWith "http://" || url.startsWith "https://" then none
    else some (.baseUrl, "must start with http:// or https://")

/-- What a time breaks that must not be zero. -/
def zeroBreach (s : Setting) (n : Nat) : Breach := if n = 0 then some (s, "must be > 0") else none

/-- What a path breaks that must not be empty. -/
def emptyBreach (s : Setting) (path : String) : Breach :=
  if path.isEmpty then some (s, "must not be empty") else none

/-- What a secret breaks that must not be blank. -/
def blankBreach (s : Setting) (secret : Option String) : Breach :=
  if secret.any (fun t => (Text.trimmed t).isEmpty) then some (s, "must not be blank when set") else none

/-- What the settings break, in the order in which they are looked at. -/
def breaches (c : Config) : List Breach :=
  [ c.urlBreach, zeroBreach .timeout c.timeout, zeroBreach .tick c.tick,
    emptyBreach .statePath c.statePath, emptyBreach .logPath c.logPath,
    blankBreach .apiKey c.apiKey, blankBreach .token c.token ]

/-- Checks the rules. The first one broken is reported. -/
def check (c : Config) : Except Fault Unit :=
  match c.breaches.findSome? id with
  | some (setting, reason) => .error (.invalid setting reason)
  | none => .ok ()

/-- How the list of tasks is kept up to date. -/
def tasksOptions (c : Config) : Cache.Options := { interval := c.tasksInterval, stale := c.stale }

/-- How the headline numbers are kept up to date. -/
def metricsOptions (c : Config) : Cache.Options := { interval := c.metricsInterval, stale := c.stale }

end Config

end TaskWatch
