import TaskWatch.Proofs.Cache.Latest

/-! What somebody is served who subscribes to a query that has an entry.

    There are three cases. If a fetch is in flight, the subscriber joins it. If none is and the entry is
    fresh, the subscriber is served from it and nothing is fetched. Otherwise a fetch is started. -/

namespace TaskWatch.Cache

variable {α : Type} {now : Time.Instant} {k : Key} {c c' : Cache α} {s : Slot α} {producer : Nat}
  {o : Options} {h : Handle}

theorem stats_stopTimer (timer : Option Timer) : (c.stopTimer now k timer).stats = c.stats := by
  cases timer with
  | none => rfl
  | some timer => rw [stopTimer, abort_eq]; rfl

/-- Putting a timer in line counts nothing. -/
theorem stats_reschedule : (c.reschedule now k).stats = c.stats := by
  cases hs : c.slots.find? k with
  | none => rw [reschedule_vacant hs]
  | some s =>
    rw [reschedule_eq hs]
    split
    · rfl
    · cases s.period? with
      | none => exact stats_stopTimer s.timer
      | some period => exact stats_stopTimer s.timer

/-- Putting a timer in line leaves the fetch in flight alone. -/
theorem flying_reschedule {g : Nat} : (c.reschedule now k).Flying k g ↔ c.Flying k g := by
  cases hs : c.slots.find? k with
  | none => rw [reschedule_vacant hs]
  | some s =>
    obtain ⟨timer, found⟩ := find?_reschedule now hs
    have there := (found k).trans (if_pos rfl)
    constructor
    · rintro ⟨s', f, there', flying, hg⟩
      obtain rfl := Option.some.inj (there.symm.trans there')
      exact ⟨s, f, hs, flying, hg⟩
    · rintro ⟨s', f, there', flying, hg⟩
      obtain rfl := Option.some.inj (hs.symm.trans there')
      exact ⟨_, f, there, flying, hg⟩

/-- The slot can serve a subscriber at once: nothing is in flight, and the data is fresh. -/
def Slot.isFresh (s : Slot α) (now : Time.Instant) (o : Options) : Bool :=
  s.inFlight.isNone && !s.invalidated && !s.entry.isStale now.elapsed o.stale

/-- The cache once a subscriber has joined, before anything is counted or fetched. -/
def joined (now : Time.Instant) (k : Key) (s : Slot α) (producer : Nat) (o : Options)
    (c : Cache α) : Cache α :=
  (c.numbered.abort? now (s.eviction.map Eviction.job)).setSlot k
    { s with eviction := none, producer,
             subscribers := s.subscribers ++ [(c.nextNumber, o.interval)] }

theorem joined_spec (now : Time.Instant) (producer : Nat) (o : Options) (c : Cache α) :
    (c.joined now k s producer o).stats = c.stats ∧
    (c.joined now k s producer o).sequence = c.sequence + 1 ∧
    (c.joined now k s producer o).slots.find? k = some
      { s with eviction := none, producer,
               subscribers := s.subscribers ++ [(c.nextNumber, o.interval)] } := by
  refine ⟨?_, ?_, find?_setSlot_self ..⟩
  · rw [joined, abort?_eq]
    rfl
  · rw [joined, abort?_eq]
    rfl

/-- The cache once a subscriber has joined and was served, before the timer is put in line. -/
def served (now : Time.Instant) (k : Key) (s : Slot α) (producer : Nat) (o : Options)
    (c : Cache α) : Cache α :=
  let c := c.joined now k s producer o
  if s.inFlight.isSome then
    (c.count (fun t => { t with joined := t.joined + 1 })).report (.joined k)
  else if s.isFresh now o then c.count (fun t => { t with hits := t.hits + 1 })
  else if s.entry.data.isSome then
    ((c.count (fun t => { t with staleHits := t.staleHits + 1 })).startFetch now k false).1
  else ((c.count (fun t => { t with misses := t.misses + 1 })).startFetch now k false).1

theorem join_joined (now : Time.Instant) (k : Key) (s : Slot α) (producer : Nat) (o : Options)
    (c : Cache α) : c.numbered.join now k s producer o c.nextNumber =
      if s.inFlight.isSome then
        (((c.joined now k s producer o).count (fun t => { t with joined := t.joined + 1 })).report
          (.joined k), false)
      else if s.invalidated || s.entry.isStale now.elapsed o.stale then
        if s.entry.data.isSome then
          ((c.joined now k s producer o).count (fun t => { t with staleHits := t.staleHits + 1 }), true)
        else ((c.joined now k s producer o).count (fun t => { t with misses := t.misses + 1 }), true)
      else ((c.joined now k s producer o).count (fun t => { t with hits := t.hits + 1 }), false) :=
  rfl

theorem join_served (now : Time.Instant) (k : Key) (s : Slot α) (producer : Nat) (o : Options)
    (c : Cache α) :
    (if (c.numbered.join now k s producer o c.nextNumber).2 then
      ((c.numbered.join now k s producer o c.nextNumber).1.startFetch now k false).1
    else (c.numbered.join now k s producer o c.nextNumber).1) = c.served now k s producer o := by
  rw [join_joined, served]
  generalize c.joined now k s producer o = j
  unfold Slot.isFresh
  cases s.inFlight with
  | some f => rfl
  | none =>
    cases s.invalidated <;> cases s.entry.isStale now.elapsed o.stale <;>
      cases s.entry.data.isSome <;> rfl

theorem subscribe_there (valid : k.isValid = true) (there : c.slots.find? k = some s) :
    c.subscribe now k producer o = .ok ((c.served now k s producer o).reschedule now k,
      { key := k, subscriber := c.nextNumber, birth := s.birth, seen := s.version }) := by
  rw [← join_served]
  simp only [subscribe, valid, Bool.not_true, Bool.false_eq_true, if_false, there]

/-- Who subscribes while a fetch is in flight joins it, and nothing is fetched. -/
theorem served_joined (now : Time.Instant) (k : Key) (producer : Nat) (o : Options) (c : Cache α)
    {f : Flight} (flying : s.inFlight = some f) :
    (c.served now k s producer o).stats = { c.stats with joined := c.stats.joined + 1 } ∧
      (c.served now k s producer o).Flying k f.generation := by
  obtain ⟨stats, -, found⟩ := joined_spec (k := k) (s := s) now producer o c
  rw [served, flying]
  exact ⟨by simp [report, count, stats], _, f, found, flying, rfl⟩

/-- Who subscribes to an entry that is fresh is served from it, and nothing is fetched. -/
theorem served_fresh (k : Key) (producer : Nat) (c : Cache α) (fresh : s.isFresh now o = true) :
    (c.served now k s producer o).stats = { c.stats with hits := c.stats.hits + 1 } ∧
      ∀ g, ¬ (c.served now k s producer o).Flying k g := by
  obtain ⟨stats, -, found⟩ := joined_spec (k := k) (s := s) now producer o c
  have idle : s.inFlight = none := by
    simp only [Slot.isFresh, Bool.and_eq_true, Option.isNone_iff_eq_none] at fresh
    exact fresh.1.1
  rw [served, idle, Option.isSome_none, if_neg Bool.false_ne_true, if_pos fresh]
  refine ⟨by simp [count, stats], fun g ⟨s', f, there, flying, _⟩ => ?_⟩
  obtain rfl := Option.some.inj (found.symm.trans there)
  simp [idle] at flying

/-- Who subscribes to any other entry is served what there is, and a fetch is started. -/
theorem served_stale (k : Key) (producer : Nat) (c : Cache α) (idle : s.inFlight = none)
    (stale : s.isFresh now o = false) :
    (c.served now k s producer o).stats =
        (if s.entry.data.isSome then
          { c.stats with staleHits := c.stats.staleHits + 1, fetches := c.stats.fetches + 1 }
        else { c.stats with misses := c.stats.misses + 1, fetches := c.stats.fetches + 1 }) ∧
      (c.served now k s producer o).Flying k (c.sequence + 2) := by
  obtain ⟨stats, sequence, found⟩ := joined_spec (k := k) (s := s) now producer o c
  have started (f : Stats → Stats) :
      let c' := (((c.joined now k s producer o).count f).startFetch now k false).1
      c'.stats = { f c.stats with fetches := (f c.stats).fetches + 1 } ∧
        c'.Flying k (c.sequence + 2) := by
    rw [startFetch_idle (c := (c.joined now k s producer o).count f) found idle]
    refine ⟨by simp [launch, count, spawn, numbered, report, setSlot, stats], _, _,
      find?_setSlot_self .., rfl, ?_⟩
    simp [nextNumber, count, sequence]
  rw [served, idle, Option.isSome_none, if_neg Bool.false_ne_true, stale,
    if_neg Bool.false_ne_true]
  split <;> exact started _

end TaskWatch.Cache
