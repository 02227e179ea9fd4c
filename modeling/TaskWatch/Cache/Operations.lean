import TaskWatch.Cache.Interest

/-! Operations on a whole entry, and on the cache as a whole. -/

namespace TaskWatch.Cache

variable {α : Type}

/-- Starts a fetch anew; one in flight is given up. -/
def refetch (now : Time.Instant) (k : Key) (c : Cache α) : Except Misuse (Cache α) :=
  if (c.slots.find? k).isSome then .ok (c.startFetch now k true).1 else .error (.unknownKey k)

/-- Declares the data of a query stale. If somebody is interested in it, a fetch is started, unless
    one is in flight. The answer says whether there is an entry. -/
def invalidate (now : Time.Instant) (k : Key) (c : Cache α) : Cache α × Bool :=
  match c.slots.find? k with
  | none => (c, false)
  | some s =>
    let subscribed := !s.subscribers.isEmpty
    let c := (c.setSlot k { s with invalidated := true }).report (.invalidated k subscribed)
    (if subscribed then (c.startFetch now k false).1 else c, true)

/-- Gives up everything that is under way for a slot. -/
def abortAll (now : Time.Instant) (s : Slot α) (c : Cache α) : Cache α :=
  ((c.abort? now (s.inFlight.map Flight.job)).abort? now (s.timer.map Timer.job)).abort? now
    (s.eviction.map Eviction.job)

/-- What is left of a slot that is dropped. -/
def Slot.remains (s : Slot α) : Remains α :=
  { birth := s.birth, entry := s.entry, version := s.version }

/-- Drops every entry and gives up everything that is under way for one. -/
def dropEntries (now : Time.Instant) (c : Cache α) : Cache α :=
  let slots := c.slots.rows.map Prod.snd
  let c := slots.foldl (fun c s => c.abortAll now s) c
  { c with slots := {}, remains := slots.map Slot.remains ++ c.remains }

/-- Drops every entry. -/
def clear (now : Time.Instant) (c : Cache α) : Cache α := (c.dropEntries now).report .cleared

/-- Gives up the cache itself. Calls of producers that run on for entries evicted before come to
    nothing. -/
def abandon (now : Time.Instant) (c : Cache α) : Cache α :=
  { c.dropEntries now with abandoned := true }

/-- Takes the result of a fetch, unless the cache was given up. -/
def settle (now : Time.Instant) (k : Key) (generation : Nat) (result : Except String α)
    (c : Cache α) : Cache α :=
  if c.abandoned then c else c.commit now k generation result

/-! ### What the holder of a handle sees -/

/-- The entry of a handle, its version, and whether changes can still be published. -/
def Handle.view (h : Handle) (c : Cache α) : Option (Entry α × Nat × Bool) :=
  match (c.slots.find? h.key).filter (fun s => s.birth == h.birth) with
  | some s => some (s.entry, s.version, true)
  | none =>
    (c.remains.find? (fun r => r.birth == h.birth)).map (fun r => (r.entry, r.version, false))

/-- The entry of a handle. -/
def Handle.current (h : Handle) (c : Cache α) : Option (Entry α) := (h.view c).map Prod.fst

/-- The handle once everything published was seen. -/
def Handle.caughtUp (h : Handle) (c : Cache α) : Handle :=
  match h.view c with
  | some (_, version, _) => { h with seen := version }
  | none => h

/-- A change was published that was not seen, and more can follow. -/
def Handle.hasChanged (h : Handle) (c : Cache α) : Bool :=
  match h.view c with
  | some (_, version, isOpen) => isOpen && h.seen != version
  | none => false

/-- The next change, if there is one to see now: the entry, or the news that none can follow. -/
def Handle.change? (h : Handle) (c : Cache α) : Option (Except Misuse (Entry α)) :=
  match h.view c with
  | some (entry, version, isOpen) =>
    if h.seen != version then some (.ok entry)
    else if isOpen then none
    else some (.error (.closed h.key))
  | none => some (.error (.closed h.key))

/-- The entry, if it is as wanted, or the news that it can never be. -/
def Handle.match? (h : Handle) (wanted : Entry α → Bool) (c : Cache α) :
    Option (Except Misuse (Entry α)) :=
  match h.view c with
  | some (entry, _, isOpen) =>
    if wanted entry then some (.ok entry)
    else if isOpen then none
    else some (.error (.closed h.key))
  | none => some (.error (.closed h.key))

end TaskWatch.Cache
