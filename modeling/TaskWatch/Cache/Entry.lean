import TaskWatch.Cache.Key
import TaskWatch.Time.Instant

/-! Entries of a cache: what is known of one query.

    An entry keeps the data of the last fetch that succeeded, also while later fetches run or fail.
    Three transitions change it: a fetch begins, succeeds or fails. -/

namespace TaskWatch.Cache

/-- Where an entry is in its life. -/
inductive Phase where
  /-- No fetch has begun. -/
  | idle
  /-- A fetch is under way and there is no data. -/
  | loading
  /-- The last fetch to finish succeeded. -/
  | success
  /-- The last fetch to finish failed. -/
  | error
  deriving DecidableEq, Repr

namespace Phase

/-- Every phase, in order. -/
def all : List Phase := [.idle, .loading, .success, .error]

/-- The word that stands for the phase. -/
def word : Phase → String
  | .idle => "idle"
  | .loading => "loading"
  | .success => "success"
  | .error => "error"

end Phase

/-- What is known of one query. -/
structure Entry (α : Type) where
  key : Key
  data : Option α
  phase : Phase
  error : Option String
  /-- When the last fetch succeeded, in milliseconds on the clock that ages are counted on. -/
  fetchedAt : Option Nat
  /-- What the wall clock showed then. -/
  updatedAt : Option Time.Stamp
  /-- A fetch is under way. -/
  fetching : Bool
  deriving Repr

namespace Entry

variable {α : Type}

/-- The entry of a query that nobody has fetched. -/
def idle (key : Key) : Entry α :=
  { key, data := none, phase := .idle, error := none, fetchedAt := none, updatedAt := none,
    fetching := false }

/-- How old the data is. -/
def age (e : Entry α) (now : Nat) : Option Nat := e.fetchedAt.map (fun t => now - t)

/-- The data is older than `stale` milliseconds, or there never was any. -/
def isStale (e : Entry α) (now stale : Nat) : Bool :=
  match e.age now with
  | some a => stale < a
  | none => true

/-- A fetch begins. -/
def begin (e : Entry α) : Entry α :=
  { e with fetching := true, phase := if e.data.isNone then .loading else e.phase }

/-- A fetch succeeds. -/
def succeed (now : Time.Instant) (a : α) (e : Entry α) : Entry α :=
  { e with
    data := some a, phase := .success, error := none, fetchedAt := some now.elapsed,
    updatedAt := some now.wall, fetching := false }

/-- A fetch fails. -/
def fail (message : String) (e : Entry α) : Entry α :=
  { e with phase := .error, error := some message, fetching := false }

end Entry

end TaskWatch.Cache
