import TaskWatch.Cache.Agenda
import TaskWatch.Cache.Entry
import TaskWatch.Cache.Event
import TaskWatch.Cache.Stats
import TaskWatch.Cache.Table

/-! A cache of queries: its state, and the small changes that its operations are made of.

    Every query somebody is interested in has a slot, which holds its entry and who is interested in
    it. One counter numbers subscribers, fetches and evictions, so that a later fetch always has a
    higher number than an earlier one. The number of a fetch is its generation. -/

namespace TaskWatch

namespace Cache

/-- What somebody asks for who subscribes to a query. -/
structure Options where
  /-- Milliseconds between scheduled fetches; none are scheduled if it is zero. -/
  interval : Nat := 0
  /-- For how many milliseconds data counts as fresh. -/
  stale : Nat := 0
  deriving DecidableEq, Repr

/-- Fetches are scheduled. -/
def Options.polls (o : Options) : Bool := o.interval != 0

/-- A fetch under way. -/
structure Flight where
  generation : Nat
  job : Nat
  deriving DecidableEq, Repr

/-- The timer of scheduled fetches. -/
structure Timer where
  period : Nat
  job : Nat
  deriving DecidableEq, Repr

/-- An eviction that is pending. -/
structure Eviction where
  token : Nat
  job : Nat
  deriving DecidableEq, Repr

/-- A query somebody is interested in, or was a short while ago. -/
structure Slot (α : Type) where
  /-- The subscriber for whom the slot was made. -/
  birth : Nat
  entry : Entry α
  /-- How often a change of the entry was published. -/
  version : Nat := 0
  /-- The producer that the next fetch calls. -/
  producer : Nat
  /-- The subscribers and the interval each asked for. -/
  subscribers : List (Nat × Nat) := []
  inFlight : Option Flight := none
  /-- The data counts as stale, however young. -/
  invalidated : Bool := false
  timer : Option Timer := none
  eviction : Option Eviction := none

namespace Slot

variable {α : Type}

/-- The shortest interval that a subscriber asked for. -/
def period? (s : Slot α) : Option Nat :=
  ((s.subscribers.map Prod.snd).filter (fun i => i != 0)).min?

/-- Changes the entry and publishes the change. -/
def publish (f : Entry α → Entry α) (s : Slot α) : Slot α :=
  { s with entry := f s.entry, version := s.version + 1 }

end Slot

/-- The last that was published of an entry that was dropped. -/
structure Remains (α : Type) where
  birth : Nat
  entry : Entry α
  version : Nat

/-- Misuse of a cache. -/
inductive Misuse where
  | emptyKey
  | unknownKey (key : Key)
  | closed (key : Key)
  deriving DecidableEq, Repr

/-- The wording of a misuse. -/
def Misuse.message : Misuse → String
  | .emptyKey => "Query key must have at least one non-empty segment"
  | .unknownKey key => "No cache entry for key " ++ key.text
  | .closed key => "Cache entry for key " ++ key.text ++ " was dropped"

end Cache

/-- For how many milliseconds an entry without subscribers is kept, unless told otherwise. -/
def Cache.defaultGrace : Nat := 300000

open Cache in
/-- A cache of queries. -/
structure Cache (α : Type) where
  /-- For how many milliseconds an entry without subscribers is kept. -/
  grace : Nat := Cache.defaultGrace
  slots : Table (Slot α) := {}
  /-- The last number that was given to a subscriber, a fetch or an eviction. -/
  sequence : Nat := 0
  /-- How many jobs were ever begun. -/
  begun : Nat := 0
  agenda : Agenda := []
  /-- What is left of dropped entries for those who still hold on to them. -/
  remains : List (Remains α) := []
  stats : Stats := {}
  /-- Nobody can use the cache any more. -/
  abandoned : Bool := false
  /-- What was reported, the latest first. -/
  journal : List Event := []

namespace Cache

variable {α : Type}

/-- The entry of a query. -/
def entry? (c : Cache α) (k : Key) : Option (Entry α) := (c.slots.find? k).map (·.entry)

/-- How many are interested in a query. -/
def subscriberCount (c : Cache α) (k : Key) : Nat :=
  match c.slots.find? k with
  | some s => s.subscribers.length
  | none => 0

/-- Puts a slot in the place of the one that the query had. -/
def setSlot (c : Cache α) (k : Key) (s : Slot α) : Cache α :=
  { c with slots := c.slots.insert k s }

/-- Reports an event. -/
def report (e : Event) (c : Cache α) : Cache α := { c with journal := e :: c.journal }

/-- Changes the counts. -/
def count (f : Stats → Stats) (c : Cache α) : Cache α := { c with stats := f c.stats }

/-- The number that is given next. -/
def nextNumber (c : Cache α) : Nat := c.sequence + 1

/-- Gives out the next number. -/
def numbered (c : Cache α) : Cache α := { c with sequence := c.sequence + 1 }

/-- The number of the job that is begun next. -/
def nextJob (c : Cache α) : Nat := c.begun + 1

/-- Begins a job. -/
def spawn (now : Time.Instant) (k : Key) (duty : Duty) (due : Nat) (c : Cache α) : Cache α :=
  { c with
    begun := c.begun + 1
    agenda := c.agenda ++ [{ number := c.begun + 1, key := k, duty, due := some due,
                             turn := now.turn }] }

/-- Gives a job up. A call of a producer that it waits for is let go of at once, but only after
    what is ready already. -/
def abort (now : Time.Instant) (job : Nat) (c : Cache α) : Cache α :=
  let rest := c.agenda.remove job
  match c.agenda.find? job with
  | some j =>
    match j.duty with
    | .reply _ producer call =>
      let release :=
        { j with duty := .release producer call, due := some now.elapsed, turn := now.turn }
      { c with agenda := rest ++ [release] }
    | _ => { c with agenda := rest }
  | none => c

/-- Gives a job up, if there is one. -/
def abort? (now : Time.Instant) (job : Option Nat) (c : Cache α) : Cache α :=
  match job with
  | some n => c.abort now n
  | none => c

end Cache

end TaskWatch
