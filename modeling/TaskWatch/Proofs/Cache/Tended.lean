import TaskWatch.Proofs.Cache.Timers

/-! Queries are tended as their subscribers ask.

    In every reachable course the timer of a slot runs at the shortest interval that a subscriber asked
    for, an eviction pends just as long as there is no subscriber, and no job waits but for a slot
    that knows it. What spares a query keeps it tended. The other deeds are gone through here: who
    joins or leaves has the timer put in line at once, the last one to leave has an eviction scheduled,
    and an entry is dropped with all that waits for it. -/

namespace TaskWatch.Cache

variable {α : Type} {now : Time.Instant} {k : Key} {c c' : Cache α} {s s' : Slot α}

/-- The job waits for the slot, as its timer or as its eviction. -/
def Slot.Awaits (s : Slot α) (j : Job) : Prop :=
  (∃ period, j.duty = .poll period ∧ s.timer = some { period, job := j.number }) ∨
    ∃ token, j.duty = .collect token ∧ s.eviction = some { token, job := j.number }

/-- Every job that waits for the query waits for its slot. -/
def Posted (c : Cache α) (k : Key) : Prop := ∀ j ∈ c.agenda, j.key = k → j.isTimer = true →
  ∃ s, c.slots.find? k = some s ∧ s.Awaits j

/-- The timer runs at the shortest interval that a subscriber asked for. -/
def Timed (c : Cache α) (k : Key) : Prop :=
  ∀ s, c.slots.find? k = some s → s.timer.map Timer.period = s.period?

/-- An eviction pends as long as there is no subscriber. -/
def Watched (c : Cache α) (k : Key) : Prop :=
  ∀ s, c.slots.find? k = some s → s.eviction.isSome = s.subscribers.isEmpty

/-- What waits for the query is what its subscribers ask for. -/
structure Tended (c : Cache α) (k : Key) : Prop where
  posted : c.Posted k
  timed : c.Timed k
  watched : c.Watched k

/-- What waits for a slot is named by it. -/
theorem Slot.Awaits.names {j : Job} (h : s.Awaits j) : ∃ p, s.Names j.number p := by
  rcases h with ⟨period, -, runs⟩ | ⟨token, -, pends⟩
  · exact ⟨.poll period, .timer runs⟩
  · exact ⟨.collect token, .eviction pends⟩

theorem Posted.there (inv : c.Posted k) (there : c.slots.find? k = some s) {j : Job}
    (hj : j ∈ c.agenda) (own : j.key = k) (waits : j.isTimer = true) : s.Awaits j := by
  obtain ⟨s', there', awaits⟩ := inv j hj own waits
  rwa [Option.some.inj (there.symm.trans there')]

/-! ### What is spared -/

/-- Who awaits a job is told by the timer and the eviction. -/
theorem Slot.Awaits.congr {i j : Job} (h : s.Awaits i) (timer : s'.timer = s.timer)
    (eviction : s'.eviction = s.eviction) (duty : i.duty = j.duty) (number : i.number = j.number) :
    s'.Awaits j := by
  rw [Slot.Awaits, timer, eviction, ← duty, ← number]
  exact h

theorem Posted.spared (inv : c.Posted k) (h : Spares k c c') : c'.Posted k := by
  intro j hj own waits
  obtain ⟨i, hi, key, number, duty, -⟩ := h.jobs j hj own waits
  obtain ⟨s, there, awaits⟩ := inv i hi (key.trans own) (by rwa [Job.isTimer, duty])
  obtain ⟨s', there', same⟩ := h.slot_there there
  exact ⟨s', there', awaits.congr (congrArg Interest.timer same) (congrArg Interest.eviction same)
    duty number⟩

theorem Watched.spared (inv : c.Watched k) (h : Spares k c c') : c'.Watched k := by
  intro s' there'
  obtain ⟨s, there, same⟩ := h.slot_there' there'
  have subscribers : s'.subscribers = s.subscribers := congrArg Interest.subscribers same
  have eviction : s'.eviction = s.eviction := congrArg Interest.eviction same
  rw [subscribers, eviction]
  exact inv s there

theorem Timed.spared (inv : c.Timed k) (h : Spares k c c') : c'.Timed k := by
  intro s' there'
  obtain ⟨s, there, same⟩ := h.slot_there' there'
  have subscribers : s'.subscribers = s.subscribers := congrArg Interest.subscribers same
  have timer : s'.timer = s.timer := congrArg Interest.timer same
  rw [Slot.period?, subscribers, timer]
  exact inv s there

theorem Tended.spared (inv : c.Tended k) (h : Spares k c c') : c'.Tended k :=
  ⟨inv.posted.spared h, inv.timed.spared h, inv.watched.spared h⟩

/-! ### The timer is put in line -/

/-- However it was before, the timer is in line afterwards. -/
theorem timed_reschedule (now : Time.Instant) (c : Cache α) (k : Key) :
    (c.reschedule now k).Timed k := by
  intro s' there'
  cases hs : c.slots.find? k with
  | none =>
    rw [reschedule_vacant hs] at there'
    exact nomatch hs.symm.trans there'
  | some s =>
    rw [reschedule_eq hs] at there'
    split at there'
    · rename_i aligned
      obtain rfl := Option.some.inj (hs.symm.trans there')
      simpa using (Bool.and_eq_true_iff.mp aligned).2
    · cases hp : s.period? with
      | none =>
        rw [hp] at there'
        obtain rfl := Option.some.inj ((find?_setSlot_self ..).symm.trans there')
        exact hp.symm
      | some period =>
        rw [hp] at there'
        obtain rfl := Option.some.inj ((find?_setSlot_self ..).symm.trans there')
        exact hp.symm

/-- An old timer is given up before a new one is known. -/
theorem posted_reschedule (inv : c.Posted k) : (c.reschedule now k).Posted k := by
  cases hs : c.slots.find? k with
  | none => rw [reschedule_vacant hs]; exact inv
  | some s =>
    -- What waited before and was not given up is the eviction.
    have kept {j : Job} (hj : j ∈ (c.stopTimer now k s.timer).agenda) (own : j.key = k)
        (waits : j.isTimer = true) (timer : Option Timer) : ({ s with timer } : Slot α).Awaits j := by
      rw [agenda_stopTimer] at hj
      obtain ⟨listed, spared⟩ := timer_abort? hj waits
      rcases inv.there hs listed own waits with ⟨period, -, runs⟩ | evicts
      · exact (spared (by rw [runs]; rfl)).elim
      · exact .inr evicts
    rw [reschedule_eq hs]
    split
    · exact inv
    · cases s.period? with
      | none => exact fun j hj own waits => ⟨_, find?_setSlot_self .., kept hj own waits none⟩
      | some period =>
        intro j hj own waits
        rcases List.mem_append.mp hj with hj | hj
        · exact ⟨_, find?_setSlot_self .., kept hj own waits (some _)⟩
        · obtain rfl := List.mem_singleton.mp hj
          exact ⟨_, find?_setSlot_self .., .inl ⟨period, rfl, rfl⟩⟩

theorem watched_reschedule (inv : c.Watched k) : (c.reschedule now k).Watched k := by
  intro s' there'
  cases hs : c.slots.find? k with
  | none =>
    rw [reschedule_vacant hs] at there'
    exact nomatch hs.symm.trans there'
  | some s =>
    obtain ⟨timer, found⟩ := find?_reschedule now hs
    obtain rfl := Option.some.inj (((found k).trans (if_pos rfl)).symm.trans there')
    exact inv s hs

theorem tended_reschedule (posted : c.Posted k) (watched : c.Watched k) :
    (c.reschedule now k).Tended k :=
  ⟨posted_reschedule posted, timed_reschedule now c k, watched_reschedule watched⟩

/-! ### Who joins -/

/-- The eviction is called off. -/
theorem posted_joined (inv : c.Posted k) (there : c.slots.find? k = some s) (producer : Nat)
    (o : Options) : (c.joined now k s producer o).Posted k := by
  intro j hj own waits
  obtain ⟨listed, spared⟩ := timer_abort? (c := c.numbered) hj waits
  refine ⟨_, find?_setSlot_self .., ?_⟩
  rcases inv.there there listed own waits with polls | ⟨token, -, pends⟩
  · exact .inl polls
  · exact (spared (by rw [pends]; rfl)).elim

theorem watched_joined (producer : Nat) (o : Options) :
    (c.joined now k s producer o).Watched k := by
  intro s' there'
  obtain rfl := Option.some.inj ((find?_setSlot_self ..).symm.trans there')
  simp

theorem tended_subscribe {producer : Nat} {o : Options} {h : Handle} (inv : c.Tended k)
    (done : c.subscribe now k producer o = .ok (c', h)) : c'.Tended k := by
  have valid := valid_of_subscribe done
  cases hs : c.slots.find? k with
  | none =>
    rw [subscribe_vacant valid hs, Except.ok.injEq, Prod.mk.injEq] at done
    obtain ⟨rfl, -⟩ := done
    have posted : (c.numbered.found k producer o c.nextNumber).Posted k := by
      intro j hj own waits
      obtain ⟨s, there, -⟩ := inv.posted j hj own waits
      exact nomatch hs.symm.trans there
    have watched : (c.numbered.found k producer o c.nextNumber).Watched k := by
      intro s there
      obtain rfl := Option.some.inj ((find?_found ..).symm.trans there)
      rfl
    exact tended_reschedule (posted.spared spares_startFetch) (watched.spared spares_startFetch)
  | some s =>
    rw [subscribe_there valid hs, Except.ok.injEq, Prod.mk.injEq] at done
    obtain ⟨rfl, -⟩ := done
    have served := spares_served (l := k) now k s producer o c
    exact tended_reschedule ((posted_joined inv.posted hs producer o).spared served)
      ((watched_joined producer o).spared served)

/-! ### Who leaves -/

/-- No eviction pends while there is a subscriber. -/
theorem Watched.unpending (inv : c.Watched k) (there : c.slots.find? k = some s) {id : Nat}
    (member : s.subscribers.any (fun p => p.1 == id) = true) : s.eviction = none := by
  have pends := inv s there
  cases hs : s.subscribers with
  | nil => simp [hs] at member
  | cons => simpa [hs] using pends

/-- The slot once a subscriber has left. -/
theorem left_spec (now : Time.Instant) {h : Handle} (inv : c.Tended h.key)
    (there : c.slots.find? h.key = some s)
    (member : s.subscribers.any (fun p => p.1 == h.subscriber) = true) :
    ∃ timer, (c.left now h s).slots.find? h.key =
        some { s with subscribers := s.staying h.subscriber, timer, eviction := none } ∧
      (c.left now h s).Posted h.key ∧ (c.left now h s).Timed h.key := by
  have found := find?_setSlot_self c.numbered h.key
    { s with subscribers := s.staying h.subscriber }
  obtain ⟨timer, slots⟩ := find?_reschedule now found
  refine ⟨timer, ?_, posted_reschedule fun j hj own waits => ?_, timed_reschedule now _ h.key⟩
  · rw [left, slots, if_pos rfl, inv.watched.unpending there member]
  · exact ⟨_, found, inv.posted.there there hj own waits⟩

/-- The slot of a query that still has subscribers when one has left. -/
theorem find?_unsubscribe (now : Time.Instant) {h : Handle} (inv : c.Tended h.key)
    (there : c.slots.find? h.key = some s)
    (member : s.subscribers.any (fun p => p.1 == h.subscriber) = true)
    (stay : s.staying h.subscriber ≠ []) :
    ∃ timer, (c.unsubscribe now h).slots.find? h.key =
      some { s with subscribers := s.staying h.subscriber, timer, eviction := none } := by
  obtain ⟨timer, found, -⟩ := left_spec now inv there member
  refine ⟨timer, ?_⟩
  rw [unsubscribe_member there member, if_neg (by rwa [List.isEmpty_iff]), found]

/-- Nothing waits for a slot without timer and eviction. -/
theorem Posted.unposted (posted : c.Posted k) (there : c.slots.find? k = some s)
    (timer : s.timer = none) (eviction : s.eviction = none) :
    ∀ j ∈ c.agenda, j.key = k → j.isTimer = false := by
  intro j hj own
  refine Bool.eq_false_iff.mpr fun waits => ?_
  rcases posted.there there hj own waits with ⟨period, -, runs⟩ | ⟨token, -, pends⟩
  · exact nomatch timer.symm.trans runs
  · exact nomatch eviction.symm.trans pends

/-- Nothing waits for an entry that is gone. -/
theorem tended_vacant (vacant : c.slots.find? k = none)
    (unposted : ∀ j ∈ c.agenda, j.key = k → j.isTimer = false) : c.Tended k :=
  ⟨fun j hj own waits => (nomatch (unposted j hj own).symm.trans waits),
    fun _ there => (nomatch vacant.symm.trans there),
    fun _ there => (nomatch vacant.symm.trans there)⟩

/-- Once the last subscriber has left, the entry waits to be evicted, or is evicted at once. -/
theorem tended_abandonEntry {token : Nat} {timer : Option Timer}
    (there : c.slots.find? k = some { s with subscribers := [], timer, eviction := none })
    (posted : c.Posted k) (timed : c.Timed k) : (c.abandonEntry now k token).Tended k := by
  have stopped : timer = none := Option.map_eq_none_iff.mp (timed _ there)
  have unposted := posted.unposted there stopped rfl
  unfold abandonEntry
  split
  · exact tended_vacant ((Table.find?_erase c.slots k k).trans (if_pos rfl)) unposted
  · simp only [there]
    refine ⟨fun j hj own waits => ?_, fun s' there' => ?_, fun s' there' => ?_⟩
    · rcases List.mem_append.mp hj with hj | hj
      · exact nomatch (unposted j hj own).symm.trans waits
      · obtain rfl := List.mem_singleton.mp hj
        exact ⟨_, find?_setSlot_self .., .inr ⟨token, rfl, rfl⟩⟩
    · obtain rfl := Option.some.inj ((find?_setSlot_self ..).symm.trans there')
      rw [stopped]
      rfl
    · obtain rfl := Option.some.inj ((find?_setSlot_self ..).symm.trans there')
      rfl

theorem tended_unsubscribe {h : Handle} (inv : c.Tended h.key) :
    (c.unsubscribe now h).Tended h.key := by
  rcases unsubscribe_cases c h with ⟨s, there, member⟩ | stranger
  · obtain ⟨timer, found, posted, timed⟩ := left_spec now inv there member
    rw [unsubscribe_member there member]
    split
    · rename_i nobody
      rw [List.isEmpty_iff.mp nobody] at found
      exact tended_abandonEntry found posted timed
    · rename_i somebody
      refine ⟨posted, timed, fun s' there' => ?_⟩
      obtain rfl := Option.some.inj (found.symm.trans there')
      exact (Bool.eq_false_iff.mpr somebody).symm
  · exact inv.spared (spares_unsubscribe_stranger stranger)

/-! ### What drops an entry -/

/-- The timer of a slot without subscribers has been stopped. -/
theorem Timed.stopped (inv : c.Timed k) (there : c.slots.find? k = some s)
    (lonely : s.subscribers = []) : s.timer = none := by
  refine Option.map_eq_none_iff.mp ((inv s there).trans ?_)
  rw [Slot.period?, lonely]
  rfl

/-- An eviction takes the one job along that waited for the entry. -/
theorem tended_collect {j : Job} {token : Nat} (inv : c.Tended j.key) (listed : j ∈ c.agenda)
    (duty : j.duty = .collect token) : ((c.without j).collect j.key token).Tended j.key := by
  have waits : j.isTimer = true := by rw [Job.isTimer, duty]
  obtain ⟨s, there, ⟨period, polls, -⟩ | ⟨token', -, pends⟩⟩ := inv.posted j listed rfl waits
  · simp [duty] at polls
  · have rest : (c.without j).Tended j.key := inv.spared (spares_without j)
    unfold collect
    rw [show (c.without j).slots.find? j.key = some s from there]
    dsimp only
    split
    · rename_i expired
      have lonely := List.isEmpty_iff.mp (Bool.and_eq_true_iff.mp expired).1
      have stopped := inv.timed.stopped there lonely
      refine tended_vacant ((Table.find?_erase _ _ _).trans (if_pos rfl)) fun i hi own => ?_
      refine Bool.eq_false_iff.mpr fun waits => ?_
      obtain ⟨hi, other⟩ := Agenda.mem_remove.mp hi
      rcases inv.posted.there there hi own waits with ⟨period, -, runs⟩ | ⟨token'', -, pends'⟩
      · simp [stopped] at runs
      · exact other (congrArg Eviction.job (Option.some.inj (pends'.symm.trans pends)))
    · exact rest

/-- When every entry is dropped, nothing waits any more. -/
theorem tended_dropEntries (inv : c.Tended k) (registered : c.Registered)
    (slots : c'.slots = {}) (agenda : c'.agenda = (c.dropEntries now).agenda) : c'.Tended k := by
  refine tended_vacant (by rw [slots]; rfl) fun j hj own => ?_
  refine Bool.eq_false_iff.mpr fun waits => ?_
  obtain ⟨listed, unnamed⟩ := timer_foldl_abortAll _ (agenda ▸ hj) waits
  obtain ⟨s, there, awaits⟩ := inv.posted j listed own waits
  obtain ⟨p, named⟩ := awaits.names
  exact unnamed s (List.mem_map_of_mem (registered.find?_iff.mp there)) p named

theorem slots_clear (now : Time.Instant) (c : Cache α) : (c.clear now).slots = {} := by
  rw [clear, report, dropEntries_eq]

theorem slots_abandon (now : Time.Instant) (c : Cache α) : (c.abandon now).slots = {} := by
  rw [abandon, dropEntries_eq]

/-! ### Every step keeps queries tended -/

namespace Course

variable {w w' : Course α}

theorem Step.tended (h : Step w w') (hw : w.Reachable) (inv : w.cache.Tended k) :
    w'.cache.Tended k := by
  by_cases spared : ∀ n, w'.past = n :: w.past → n.deed.concerns k = false
  · exact inv.spared (h.spares spared)
  -- The others are the steps that the lemmas above are about.
  have booked {c : Cache α} (h : c.Tended k) : Tended { c with journal := [] } k :=
    ⟨h.posted, h.timed, h.watched⟩
  cases h with
  | subscribe l producer o alive done =>
    obtain rfl : l = k := by simpa [after, Deed.concerns] using spared
    exact booked (tended_subscribe inv done)
  | @unsubscribe h i alive held =>
    obtain rfl : h.key = k := by simpa [after, Deed.concerns] using spared
    exact booked (tended_unsubscribe inv)
  | clear alive => exact booked (tended_dropEntries inv hw.registered (slots_clear _ _) rfl)
  | abandon => exact booked (tended_dropEntries inv hw.registered (slots_abandon _ _) rfl)
  | @run σ supplier s j listed due =>
    refine booked ?_
    cases duty : j.duty with
    | collect token =>
      obtain rfl : j.key = k := by simpa [after, Deed.concerns, duty] using spared
      rw [runJob, duty]
      exact tended_collect inv listed duty
    | _ => exact (spared (by simp [after, Deed.concerns, duty])).elim
  | _ => exact (spared (by simp [after, Deed.concerns])).elim

theorem Reachable.tended (hw : w.Reachable) : w.cache.Tended k := by
  obtain ⟨grace, now, h⟩ := hw
  induction h with
  | refl => exact tended_vacant (fresh_vacant grace now k) nofun
  | tail before step ih => exact step.tended ⟨grace, now, before⟩ ih

end Course

end TaskWatch.Cache
