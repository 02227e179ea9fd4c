import TaskWatch.Proofs.Cache.Faithful
import TaskWatch.Proofs.Cache.Subscribe

/-! How somebody is served who subscribes, told by the history of the query.

    The slot of a query keeps a few marks, and the history says how they came about: whether a fetch is
    in flight, when one last succeeded, and whether the entry was invalidated since. Whoever subscribes
    is served what was known before. A fetch is started if there is no entry, or if none is in flight
    and the data is missing, too old or invalidated. -/

namespace TaskWatch.Cache

variable {α : Type} {now : Time.Instant} {answer : Option (Except String α)} {k : Key}
  {c c' : Cache α} {s : Slot α}

/-! ### What the history asks for -/

/-- The data of the entry that there is now does not count as fresh: no fetch has succeeded, the last
    that has is longer ago than `stale` milliseconds, or the entry was invalidated since. -/
def History.isStale (h : History α) (now stale : Nat) : Bool :=
  match success? h with
  | none => true
  | some (t, _) => decide (stale < now - t.elapsed) || isInvalidated h

/-- A fetch is to be started for whoever subscribes to the query now. -/
def Course.needsFetch (w : Course α) (k : Key) (o : Options) : Bool :=
  (w.cache.slots.find? k).isNone ||
    (w.history k).flight?.isNone && (w.history k).isStale w.now.elapsed o.stale

/-- In what way a subscriber is served. -/
inductive Service where
  | joined
  | hit
  | staleHit
  | miss
  deriving DecidableEq, Repr

/-- Counts a subscriber served in this way. -/
def Service.count (t : Stats) : Service → Stats
  | .joined => { t with joined := t.joined + 1 }
  | .hit => { t with hits := t.hits + 1 }
  | .staleHit => { t with staleHits := t.staleHits + 1 }
  | .miss => { t with misses := t.misses + 1 }

/-- In what way somebody is served who subscribes to the query now: a fetch in flight is joined; an
    entry that needs none is a hit, one that needs one but has data a stale hit; all else is a miss. -/
def Course.service (w : Course α) (k : Key) (o : Options) : Service :=
  if (w.history k).flight?.isSome then .joined
  else if (w.cache.slots.find? k).isSome && !w.needsFetch k o then .hit
  else if w.needsFetch k o && (w.cache.slots.find? k).any (·.entry.data.isSome) then .staleHit
  else .miss

/-- What an entry tells of its query, whether or not it is being fetched. -/
def Entry.news (e : Entry α) : Option α × Option String × Option Nat × Option Time.Stamp :=
  (e.data, e.error, e.fetchedAt, e.updatedAt)

namespace Course

variable {w : Course α} {o : Options}

/-- The history asks for a fetch just when the slot does. -/
theorem Reachable.needsFetch_there (hw : w.Reachable) (there : w.cache.slots.find? k = some s) :
    w.needsFetch k o = (s.inFlight.isNone && !s.isFresh w.now o) := by
  obtain ⟨flight, invalidated, data, fetchedAt, -, -, -⟩ := hw.faithful (k := k)
  rw [show (w.cell k).slot = some s from there] at flight invalidated fetchedAt
  replace flight : s.inFlight.isNone = (w.history k).flight?.isNone := by
    rw [← show _ = (w.history k).flight? from flight, Option.bind_some, Option.isNone_map]
  replace invalidated : s.invalidated = (w.history k).isInvalidated := invalidated
  replace fetchedAt : s.entry.fetchedAt = (w.history k).success?.map (·.1.elapsed) := fetchedAt
  unfold needsFetch Slot.isFresh History.isStale Entry.isStale Entry.age
  rw [there, Option.isNone_some, Bool.false_or, fetchedAt, invalidated, ← flight]
  cases s.inFlight with
  | some f => rfl
  | none =>
    cases (w.history k).success? with
    | none => simp
    | some success => simp [Bool.or_comm]

theorem needsFetch_vacant (vacant : w.cache.slots.find? k = none) : w.needsFetch k o = true := by
  simp [needsFetch, vacant]

/-- Something is in flight in the history just when it is in the slot. -/
theorem Reachable.flight?_isSome (hw : w.Reachable) :
    (w.history k).flight?.isSome = (w.cache.slots.find? k).any (·.inFlight.isSome) := by
  rw [← show _ = (w.history k).flight? from hw.faithful.flight, Option.isSome_map]
  show ((w.cache.slots.find? k).bind (·.inFlight)).isSome = _
  cases w.cache.slots.find? k <;> rfl

theorem Reachable.service_there (hw : w.Reachable) (there : w.cache.slots.find? k = some s) :
    w.service k o =
      if s.inFlight.isSome then .joined else if s.isFresh w.now o then .hit
      else if s.entry.data.isSome then .staleHit else .miss := by
  rw [service, hw.flight?_isSome, hw.needsFetch_there there, there, Option.any_some,
    Option.any_some]
  cases s.inFlight with
  | some f => rfl
  | none => cases s.isFresh w.now o <;> rfl

theorem Reachable.service_vacant (hw : w.Reachable) (vacant : w.cache.slots.find? k = none) :
    w.service k o = .miss := by
  rw [service, hw.flight?_isSome, vacant]
  simp

/-- What an event of this moment adds to the history of a query. -/
theorem Reachable.history_after (hw : w.Reachable) {deed : Deed α} (plain : deed.sign? = none)
    {signs : History α}
    (said : Cache.signs w.now k deed.answer? c.journal =
      signs ++ Cache.signs w.now k deed.answer? w.cache.journal) :
    (w.after deed c).history k = signs ++ w.history k := by
  rw [show w.cache.journal = [] from hw.booked] at said
  simp only [after, history, List.flatMap_cons, Note.signs, plain, said]
  simp [Cache.signs]

end Course

/-! ### What a subscriber is served -/

/-- A handle shows the entry of its query, if that is the one that it belongs to. -/
theorem Handle.current_there {h : Handle} (there : c.slots.find? h.key = some s)
    (same : s.birth = h.birth) : h.current c = some s.entry := by
  have kept : (c.slots.find? h.key).filter (fun s => s.birth == h.birth) = some s := by
    simp [there, Option.filter, same]
  rw [current, view, kept]
  rfl

/-- Putting a timer in line leaves entries alone. -/
theorem find?_reschedule_entry (now : Time.Instant) (there : c.slots.find? k = some s) :
    ∃ s', (c.reschedule now k).slots.find? k = some s' ∧ s'.birth = s.birth ∧
      s'.entry = s.entry := by
  obtain ⟨timer, found⟩ := find?_reschedule now there
  exact ⟨_, (found k).trans (if_pos rfl), rfl, rfl⟩

theorem signs_joined (producer : Nat) (o : Options) :
    signs now k answer (c.joined now k s producer o).journal = signs now k answer c.journal := by
  rw [joined, abort?_eq]
  rfl

/-- Who joins is served the entry as it was, apart from a fetch that begins. -/
theorem served_spec (answer : Option (Except String α)) (now : Time.Instant) (k : Key) (s : Slot α)
    (producer : Nat) (o : Options) (c : Cache α) :
    (∃ s', (c.served now k s producer o).slots.find? k = some s' ∧ s'.birth = s.birth ∧
      s'.entry.news = s.entry.news) ∧
    signs now k answer (c.served now k s producer o).journal =
      (if s.inFlight.isNone && !s.isFresh now o then [(now, .started (c.sequence + 2))] else []) ++
        signs now k answer c.journal := by
  obtain ⟨-, sequence, found⟩ := joined_spec (k := k) (s := s) now producer o c
  have said : signs now k answer (c.joined now k s producer o).journal = _ := signs_joined producer o
  have started (idle : s.inFlight = none) (f : Stats → Stats) :
      let c' := (((c.joined now k s producer o).count f).startFetch now k false).1
      (∃ s', c'.slots.find? k = some s' ∧ s'.birth = s.birth ∧ s'.entry.news = s.entry.news) ∧
        signs now k answer c'.journal =
          (now, .started (c.sequence + 2)) :: signs now k answer c.journal := by
    rw [startFetch_idle (c := (c.joined now k s producer o).count f) found idle]
    refine ⟨⟨_, find?_setSlot_self .., rfl, rfl⟩, ?_⟩
    have number : ((c.joined now k s producer o).count f).nextNumber = c.sequence + 2 :=
      congrArg (· + 1) sequence
    rw [signs_launch, number, ← said]
    rfl
  unfold served
  cases hf : s.inFlight with
  | some f =>
    refine ⟨⟨_, found, rfl, rfl⟩, ?_⟩
    simpa [report, count, signs_cons, Event.sign?] using said
  | none =>
    cases fresh : s.isFresh now o with
    | true => exact ⟨⟨_, found, rfl, rfl⟩, said⟩
    | false =>
      dsimp only [Option.isSome_none]
      rw [if_neg Bool.false_ne_true, if_neg Bool.false_ne_true]
      split <;> exact started hf _

theorem stats_served (now : Time.Instant) (k : Key) (s : Slot α) (producer : Nat) (o : Options)
    (c : Cache α) :
    (c.served now k s producer o).stats =
      { (if s.inFlight.isSome then Service.joined else if s.isFresh now o then .hit
          else if s.entry.data.isSome then .staleHit else .miss).count c.stats with
        fetches := c.stats.fetches + (s.inFlight.isNone && !s.isFresh now o).toNat } := by
  cases hf : s.inFlight with
  | some f => exact (served_joined now k producer o c hf).1
  | none =>
    cases fresh : s.isFresh now o with
    | true => exact (served_fresh k producer c fresh).1
    | false =>
      rw [(served_stale k producer c hf fresh).1]
      cases s.entry.data <;> rfl

/-- Whoever is the first to be interested in a query has its first fetch started. -/
def founded (now : Time.Instant) (k : Key) (producer : Nat) (o : Options) (c : Cache α) : Cache α :=
  ((c.numbered.found k producer o c.nextNumber).startFetch now k false).1

theorem subscribe_vacant {producer : Nat} {o : Options} (valid : k.isValid = true)
    (vacant : c.slots.find? k = none) :
    c.subscribe now k producer o = .ok ((c.founded now k producer o).reschedule now k,
      { key := k, subscriber := c.nextNumber, birth := c.nextNumber, seen := 0 }) := by
  simp only [subscribe, valid, Bool.not_true, Bool.false_eq_true, if_false, vacant]
  rfl

theorem founded_spec (answer : Option (Except String α)) (now : Time.Instant) (k : Key)
    (producer : Nat) (o : Options) (c : Cache α) :
    (∃ s', (c.founded now k producer o).slots.find? k = some s' ∧ s'.birth = c.nextNumber ∧
      s'.entry = (Entry.idle k).begin) ∧
    signs now k answer (c.founded now k producer o).journal =
      (now, .started (c.sequence + 2)) :: signs now k answer c.journal ∧
    (c.founded now k producer o).stats =
      { c.stats with misses := c.stats.misses + 1, fetches := c.stats.fetches + 1 } := by
  rw [founded, startFetch_idle (find?_found ..) rfl]
  refine ⟨⟨_, find?_setSlot_self .., rfl, rfl⟩, ?_, rfl⟩
  rw [signs_launch]
  rfl

/-- In every reachable course whoever subscribes to a valid query gets a handle. By the history of the
    query, either one fetch is started or none. The handle shows what was known before, which of a
    new entry is nothing, and the subscriber is counted in one way. -/
theorem subscribe_serves_by_history {w : Course α} (hw : w.Reachable) {k : Key}
    (valid : k.isValid = true) (producer : Nat) (o : Options) :
    ∃ c h, w.cache.subscribe w.now k producer o = .ok (c, h) ∧
      (w.after (.subscribe k producer o) c).history k =
        (if w.needsFetch k o then [(w.now, .started (w.cache.sequence + 2))] else []) ++
          w.history k ∧
      (h.current c).map Entry.news =
        some (((w.cache.slots.find? k).map (·.entry.news)).getD (none, none, none, none)) ∧
      c.stats = { (w.service k o).count w.cache.stats with
        fetches := w.cache.stats.fetches + (w.needsFetch k o).toNat } := by
  cases hs : w.cache.slots.find? k with
  | none =>
    obtain ⟨⟨s', found, birth, entry⟩, said, stats⟩ :=
      founded_spec none w.now k producer o w.cache
    obtain ⟨s'', found', birth', entry'⟩ := find?_reschedule_entry w.now found
    refine ⟨_, _, subscribe_vacant valid hs, hw.history_after rfl ?_, ?_, ?_⟩
    · rw [signs_reschedule, Course.needsFetch_vacant hs]
      exact said
    · rw [Handle.current_there found' (birth'.trans birth), entry', entry]
      simp
      rfl
    · rw [stats_reschedule, stats, hw.service_vacant hs, Course.needsFetch_vacant hs]
      rfl
  | some s =>
    obtain ⟨⟨s', found, birth, news⟩, said⟩ :=
      served_spec none w.now k s producer o w.cache
    obtain ⟨s'', found', birth', entry'⟩ := find?_reschedule_entry w.now found
    refine ⟨_, _, subscribe_there valid hs, hw.history_after rfl ?_, ?_, ?_⟩
    · rw [signs_reschedule, hw.needsFetch_there hs]
      exact said
    · rw [Handle.current_there found' (birth'.trans birth), entry', Option.map_some, news]
      simp
    · rw [stats_reschedule, stats_served, hw.service_there hs, hw.needsFetch_there hs]

/-- After a failed fetch the data is served that was there before, and a fetch is started once it is
    older than the subscriber minds. -/
theorem old_data_served :
    let w : Course Nat := .played 300 [.subscribe (.single "tasks") 0 {}, .run 1 0 (.ok 7),
      .run 1 0 (.ok 7), .refetch (.single "tasks"), .run 2 0 (.error "down"),
      .run 2 0 (.error "down"), .pass 101]
    (Key.single "tasks").isValid = true ∧ w.needsFetch (.single "tasks") { stale := 100 } = true ∧
      w.service (.single "tasks") { stale := 100 } = .staleHit ∧
      ∃ c h, w.cache.subscribe w.now (.single "tasks") 0 { stale := 100 } = .ok (c, h) ∧
        (h.current c).map (·.data) = some (some 7) ∧ c.stats.fetches = 3 := by
  intro w
  refine ⟨by decide, by decide, by decide, ?_⟩
  obtain ⟨c, h, done, -, news, stats⟩ := subscribe_serves_by_history
    (Course.reachable_played 300 _ : w.Reachable) (k := .single "tasks") (by decide) 0 { stale := 100 }
  refine ⟨c, h, done, ?_, ?_⟩
  · rw [show (fun e : Entry Nat => e.data) = Prod.fst ∘ Entry.news from rfl, ← Option.map_map, news]
    decide
  · rw [stats]
    decide

end TaskWatch.Cache
