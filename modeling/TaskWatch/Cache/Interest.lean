import TaskWatch.Cache.Polling

/-! Taking an interest in a query, and losing it.

    Whoever subscribes is served what there is at once. A fetch starts only if there is no entry yet,
    or if its data is stale and none is in flight. When the last subscriber leaves, the entry is kept
    for the grace period and then removed, unless somebody subscribes again. -/

namespace TaskWatch.Cache

variable {α : Type}

/-- What a subscriber holds. -/
structure Handle where
  key : Key
  subscriber : Nat
  /-- The slot that the handle belongs to. -/
  birth : Nat
  /-- The version of the entry that was seen last. -/
  seen : Nat
  deriving DecidableEq, Repr

/-- A subscriber joins an entry that there is already. The answer says whether a fetch is needed. -/
def join (now : Time.Instant) (k : Key) (s : Slot α) (producer : Nat) (o : Options) (id : Nat)
    (c : Cache α) : Cache α × Bool :=
  let slot :=
    { s with eviction := none, producer, subscribers := s.subscribers ++ [(id, o.interval)] }
  let c := (c.abort? now (s.eviction.map Eviction.job)).setSlot k slot
  if s.inFlight.isSome then
    ((c.count (fun t => { t with joined := t.joined + 1 })).report (.joined k), false)
  else if s.invalidated || s.entry.isStale now.elapsed o.stale then
    if s.entry.data.isSome then
      (c.count (fun t => { t with staleHits := t.staleHits + 1 }), true)
    else (c.count (fun t => { t with misses := t.misses + 1 }), true)
  else (c.count (fun t => { t with hits := t.hits + 1 }), false)

/-- A subscriber is the first to be interested in a query. -/
def found (k : Key) (producer : Nat) (o : Options) (id : Nat) (c : Cache α) : Cache α :=
  (c.setSlot k { birth := id, entry := .idle k, producer, subscribers := [(id, o.interval)] }).count
    (fun t => { t with misses := t.misses + 1 })

/-- Subscribes to a query. Fetches from now on call the given producer. -/
def subscribe (now : Time.Instant) (k : Key) (producer : Nat) (o : Options) (c : Cache α) :
    Except Misuse (Cache α × Handle) :=
  if !k.isValid then .error .emptyKey
  else
    let id := c.nextNumber
    let (handle, (c, needed)) : Handle × Cache α × Bool :=
      match c.slots.find? k with
      | some s =>
        ({ key := k, subscriber := id, birth := s.birth, seen := s.version },
          c.numbered.join now k s producer o id)
      | none =>
        ({ key := k, subscriber := id, birth := id, seen := 0 },
          (c.numbered.found k producer o id, true))
    let c := if needed then (c.startFetch now k false).1 else c
    .ok (c.reschedule now k, handle)

/-- Removes an entry that nobody is interested in. -/
def evict (k : Key) (c : Cache α) : Cache α :=
  (({ c with slots := c.slots.erase k }).count
    (fun t => { t with evictions := t.evictions + 1 })).report (.evicted k)

/-- The last subscriber of a query has left. -/
def abandonEntry (now : Time.Instant) (k : Key) (token : Nat) (c : Cache α) : Cache α :=
  if c.grace = 0 then c.evict k
  else match c.slots.find? k with
    | none => c
    | some s =>
      let eviction : Eviction := { token, job := c.nextJob }
      ((c.spawn now k (.collect token) (now.elapsed + c.grace)).setSlot k
        { s with eviction := some eviction }).report (.evictionScheduled k c.grace)

/-- A subscriber leaves. One that the query does not know any more takes nothing along but a
    number. -/
def unsubscribe (now : Time.Instant) (h : Handle) (c : Cache α) : Cache α :=
  let token := c.nextNumber
  let c := c.numbered
  match c.slots.find? h.key with
  | none => c
  | some s =>
    if s.subscribers.any (fun p => p.1 == h.subscriber) then
      let left := s.subscribers.filter (fun p => p.1 != h.subscriber)
      let c := (c.setSlot h.key { s with subscribers := left }).reschedule now h.key
      if left.isEmpty then c.abandonEntry now h.key token else c
    else c

/-- Removes an entry at the end of its grace period, if the eviction still stands. -/
def collect (k : Key) (token : Nat) (c : Cache α) : Cache α :=
  match c.slots.find? k with
  | none => c
  | some s =>
    if s.subscribers.isEmpty && s.eviction.any (fun e => e.token == token) then c.evict k else c

end TaskWatch.Cache
