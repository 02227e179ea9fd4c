import TaskWatch.Cache.Basic

/-! Fetching: from the start of a fetch to its result.

    An entry has one fetch in flight at most. A fetch that is to be started while another is in
    flight either gives way to it or takes over from it. A result is entered only if the fetch it
    belongs to is still the one in flight, so that the fetch started last wins, in whatever order
    fetches finish. -/

namespace TaskWatch.Cache

variable {α : Type}

/-- What is stored for a producer that broke down instead of answering. -/
def brokeDown : String := "producer panicked"

/-- Starts a fetch of an entry that has a slot, whatever is in flight. -/
def launch (now : Time.Instant) (k : Key) (s : Slot α) (c : Cache α) : Cache α :=
  let generation := c.nextNumber
  let flight : Flight := { generation, job := c.nextJob }
  (((c.numbered.count (fun t => { t with fetches := t.fetches + 1 })).spawn now k
      (.call generation s.producer) now.elapsed).setSlot k
      (({ s with inFlight := some flight }).publish Entry.begin)).report (.started k generation)

/-- Starts a fetch. If one is in flight, nothing happens, or with `supersede` it is given up. The
    answer says whether a fetch was started. -/
def startFetch (now : Time.Instant) (k : Key) (supersede : Bool) (c : Cache α) :
    Cache α × Bool :=
  match c.slots.find? k with
  | none => (c, false)
  | some s =>
    match s.inFlight with
    | none => (c.launch now k s, true)
    | some flight =>
      if supersede then
        (((c.abort now flight.job).report (.superseding k flight.generation)).launch now k s, true)
      else (c, false)

/-- Enters the result of a fetch that finished. -/
def enter (now : Time.Instant) (k : Key) (generation : Nat) (s : Slot α) (c : Cache α) :
    Except String α → Cache α
  | .ok a =>
    (c.setSlot k (({ s with inFlight := none, invalidated := false }).publish
      (Entry.succeed now a))).report (.committed k generation)
  | .error message =>
    ((c.count (fun t => { t with failures := t.failures + 1 })).report
      (.failed k generation message)).setSlot k
      (({ s with inFlight := none }).publish (Entry.fail message))

/-- Takes the result of a fetch. It is dropped if the entry is gone, or if the fetch is not the one
    in flight. -/
def commit (now : Time.Instant) (k : Key) (generation : Nat) (result : Except String α)
    (c : Cache α) : Cache α :=
  match c.slots.find? k with
  | none => c.report (.orphaned k generation)
  | some s =>
    if s.inFlight.any (fun flight => flight.generation == generation) then
      c.enter now k generation s result
    else
      (c.count (fun t => { t with discarded := t.discarded + 1 })).report (.overtaken k generation)

end TaskWatch.Cache
