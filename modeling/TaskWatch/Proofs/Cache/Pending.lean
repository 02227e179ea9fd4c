import TaskWatch.Proofs.Cache.Reports

/-! Evictions that pend.

    When the last subscriber of a query leaves, one job is begun that waits for the end of the grace
    period. It pends for as long as nobody subscribes and nothing is cleared, and it is the same job
    all the time, so it comes due when the period is over. Before and after each step this is told
    apart: `Step.pends` says what becomes of an eviction that pends, and `Step.pended` where one
    comes from. -/

namespace TaskWatch.Cache

variable {α : Type} {now : Time.Instant} {k : Key} {c c' : Cache α} {s s' : Slot α} {j : Job}

theorem Duty.post?_eq_collect {d : Duty} {token : Nat} :
    d.post? = some (.collect token) ↔ d = .collect token := by
  cases d <;> simp [post?]

theorem Job.isTimer_of_collect {token : Nat} (duty : j.duty = .collect token) :
    j.isTimer = true := by
  rw [isTimer, duty]

/-- The eviction that the job carries out, if it does. -/
def Job.token? (j : Job) : Option Nat :=
  match j.duty with
  | .collect token => some token
  | _ => none

theorem Job.token?_eq_some {token : Nat} : j.token? = some token ↔ j.duty = .collect token := by
  unfold token?
  cases j.duty <;> simp

namespace Course

variable {w w' : Course α}

/-! ### The one eviction that pends -/

/-- The evictions of a query that pend. -/
def evictions (w : Course α) (k : Key) : List Job :=
  w.cache.agenda.filter (fun j => j.key == k && j.token?.isSome)

theorem mem_evictions :
    j ∈ w.evictions k ↔ j ∈ w.cache.agenda ∧ j.key = k ∧ ∃ token, j.duty = .collect token := by
  simp [evictions, Option.isSome_iff_exists, Job.token?_eq_some]

/-- The entry of the slot has no subscribers, and the job waits to evict it. -/
structure Pends (w : Course α) (k : Key) (s : Slot α) (j : Job) : Prop where
  there : w.cache.slots.find? k = some s
  lonely : s.subscribers = []
  listed : j ∈ w.cache.agenda
  own : j.key = k
  awaited : ∃ token, j.duty = .collect token ∧ s.eviction = some { token, job := j.number }

/-- A job that waits to evict an entry does so for the slot of its query. -/
theorem Reachable.pends_of_collect (hw : w.Reachable) {token : Nat} (listed : j ∈ w.cache.agenda)
    (duty : j.duty = .collect token) : ∃ s, w.Pends j.key s j := by
  obtain ⟨s, there, awaits⟩ :=
    hw.tended.posted j listed rfl (Job.isTimer_of_collect duty)
  rcases awaits with ⟨period, polls, -⟩ | ⟨token', collects, pends⟩
  · exact nomatch polls.symm.trans duty
  · exact ⟨s, there, hw.staffed.lonely j.key s _ there pends, listed, rfl, token', collects, pends⟩

/-- An entry without subscribers has an eviction that pends. -/
theorem Reachable.pends_of_lonely (hw : w.Reachable) (there : w.cache.slots.find? k = some s)
    (lonely : s.subscribers = []) : ∃ j, w.Pends k s j := by
  have watched := hw.tended.watched s there
  rw [lonely, List.isEmpty_nil] at watched
  obtain ⟨e, pends⟩ := Option.isSome_iff_exists.mp watched
  obtain ⟨j, listed, own, number, post⟩ := hw.staffed.named k s _ _ there (.eviction pends)
  refine ⟨j, there, lonely, listed, own, e.token, Duty.post?_eq_collect.mp post, ?_⟩
  rw [pends, number]

/-- No other eviction pends for the query. -/
theorem Pends.only (h : w.Pends k s j) (hw : w.Reachable) : w.evictions k = [j] := by
  obtain ⟨token, duty, pends⟩ := h.awaited
  have fits := mem_evictions.mpr ⟨h.listed, h.own, token, duty⟩
  refine hw.staffed.numbered.filter_eq_singleton h.listed (List.mem_filter.mp fits).2 ?_
  intro i hi fits'
  obtain ⟨-, own, token', duty'⟩ := mem_evictions.mp (List.mem_filter.mpr ⟨hi, fits'⟩)
  obtain ⟨s', other⟩ := hw.pends_of_collect hi duty'
  obtain ⟨token'', -, pends'⟩ := other.awaited
  have there := other.there
  rw [own, h.there] at there
  obtain rfl := Option.some.inj there
  rw [pends] at pends'
  exact (congrArg Eviction.job (Option.some.inj pends')).symm

/-- No eviction pends for a query unless it has an entry without subscribers. -/
theorem Reachable.evictions_none (hw : w.Reachable)
    (attended : ∀ s, w.cache.slots.find? k = some s → s.subscribers ≠ []) :
    w.evictions k = [] := by
  refine List.eq_nil_iff_forall_not_mem.mpr fun j hj => ?_
  obtain ⟨listed, rfl, token, duty⟩ := mem_evictions.mp hj
  obtain ⟨s, h⟩ := hw.pends_of_collect listed duty
  exact attended s h.there h.lonely

/-! ### What spares a query leaves its eviction alone -/

theorem Pends.spared (h : w.Pends k s j) (hw : w.Reachable) (hw' : w'.Reachable)
    (spares : Spares k w.cache w'.cache) : ∃ s', w'.Pends k s' j ∧ s'.birth = s.birth := by
  obtain ⟨s', there', same⟩ := spares.slot_there h.there
  obtain ⟨token, duty, pends⟩ := h.awaited
  have lonely' : s'.subscribers = [] := (congrArg Interest.subscribers same).trans h.lonely
  have pends' : s'.eviction = some { token, job := j.number } :=
    (congrArg Interest.eviction same).trans pends
  obtain ⟨i, listed, own, number, post⟩ := hw'.staffed.named k s' _ _ there' (.eviction pends')
  have duty' := Duty.post?_eq_collect.mp post
  -- An eviction is not put off, so the job is the one that there was before.
  obtain ⟨i', listed', -, number', -, same'⟩ :=
    spares.jobs i listed own (Job.isTimer_of_collect duty')
  obtain rfl : i' = i := by
    rcases same' with same' | ⟨period, polls⟩
    · exact same'
    · exact nomatch polls.symm.trans duty'
  obtain rfl := hw.staffed.numbered.job listed' h.listed number
  exact ⟨s', ⟨there', lonely', listed, own, token, duty, pends'⟩, congrArg Interest.birth same⟩

theorem Pends.spared' (h : w'.Pends k s' j) (spares : Spares k w.cache w'.cache) :
    ∃ s, w.Pends k s j ∧ s.birth = s'.birth := by
  obtain ⟨s, there, same⟩ := spares.slot_there' h.there
  obtain ⟨token, duty, pends⟩ := h.awaited
  obtain ⟨i, listed, -, -, -, same'⟩ :=
    spares.jobs j h.listed h.own (Job.isTimer_of_collect duty)
  obtain rfl : i = j := by
    rcases same' with same' | ⟨period, polls⟩
    · exact same'
    · exact nomatch polls.symm.trans duty
  exact ⟨s, ⟨there, (congrArg Interest.subscribers same).symm.trans h.lonely, listed, h.own, token,
    duty, (congrArg Interest.eviction same).symm.trans pends⟩, (congrArg Interest.birth same).symm⟩

/-! ### Evictions -/

/-- In this step the entry of the query is evicted. -/
structure Evicted (k : Key) (w w' : Course α) : Prop where
  step : Step w w'
  there : (w.cache.slots.find? k).isSome
  gone : w'.cache.slots.find? k = none
  signed : w'.history k = (w.now, .evicted) :: w.history k

/-- A step evicts an entry that ends with taking it off and reported nothing else about it. -/
theorem Reachable.evicted (hw : w.Reachable) {deed : Deed α} {handles : List (Option Handle)}
    (plain : deed.sign? = none) (step : Step w { w.after deed (c.evict k) with handles })
    (there : w.cache.slots.find? k = some s)
    (quiet : signs w.now k deed.answer? c.journal = signs w.now k deed.answer? w.cache.journal) :
    Evicted k w { w.after deed (c.evict k) with handles } := by
  refine ⟨step, ?_, (Table.find?_erase _ _ _).trans (if_pos rfl), ?_⟩
  · rw [there]
    rfl
  · have said : signs w.now k deed.answer? (c.evict k).journal =
        [(w.now, .evicted)] ++ signs w.now k deed.answer? w.cache.journal := by
      rw [signs_evict, quiet]
      rfl
    exact hw.history_after plain said

/-- The eviction that pends takes the entry away. -/
theorem Pends.evicted {σ : Type} (h : w.Pends k s j) (hw : w.Reachable)
    (supplier : Supplier σ α) (state : σ) (due : j.isDue w.now.elapsed = true) :
    Evicted k w (w.after (.run j (supplier.answer? j state))
      (w.cache.runJob supplier w.now j state).1) := by
  obtain ⟨token, duty, pends⟩ := h.awaited
  have there : (w.cache.without j).slots.find? k = some s := h.there
  have evicts : (w.cache.runJob supplier w.now j state).1 = (w.cache.without j).evict k := by
    rw [runJob, duty, h.own]
    simp only [collect, there]
    simp [h.lonely, pends]
  have step := Step.run supplier state h.listed due
  rw [evicts] at step ⊢
  exact hw.evicted rfl step h.there rfl

end Course

/-! ### The last subscriber leaves -/

/-- Who subscribes finds the entry that there is, or a new one, and is among its subscribers. -/
theorem find?_subscribe {producer : Nat} {o : Options} {h : Handle}
    (done : c.subscribe now k producer o = .ok (c', h)) :
    ∃ s', c'.slots.find? k = some s' ∧ s'.subscribers ≠ [] ∧
      ∀ s, c.slots.find? k = some s → s'.birth = s.birth := by
  have valid := valid_of_subscribe done
  have rescheduled {c : Cache α} {s' : Slot α} (found : c.slots.find? k = some s') :
      ∃ s, (c.reschedule now k).slots.find? k = some s ∧ s.subscribers = s'.subscribers ∧
        s.birth = s'.birth := by
    obtain ⟨timer, slots⟩ := find?_reschedule now found
    exact ⟨_, (slots k).trans (if_pos rfl), rfl, rfl⟩
  cases hs : c.slots.find? k with
  | none =>
    rw [subscribe_vacant valid hs, Except.ok.injEq, Prod.mk.injEq] at done
    obtain ⟨rfl, -⟩ := done
    have found := find?_found c.numbered k producer o c.nextNumber
    have spared : Spares k _ (c.founded now k producer o) := spares_startFetch
    obtain ⟨s', found', same⟩ := spared.slot_there found
    obtain ⟨s, there, subscribers, -⟩ := rescheduled found'
    refine ⟨s, there, ?_, fun _ there => nomatch there⟩
    rw [subscribers, show s'.subscribers = _ from congrArg Interest.subscribers same]
    simp [Slot.interest]
  | some s₀ =>
    rw [subscribe_there valid hs, Except.ok.injEq, Prod.mk.injEq] at done
    obtain ⟨rfl, -⟩ := done
    obtain ⟨-, -, found⟩ := joined_spec (k := k) (s := s₀) now producer o c
    obtain ⟨s', found', same⟩ := (spares_served now k s₀ producer o c).slot_there found
    obtain ⟨s, there, subscribers, birth⟩ := rescheduled found'
    refine ⟨s, there, ?_, ?_⟩
    · rw [subscribers, show s'.subscribers = _ from congrArg Interest.subscribers same]
      simp [Slot.interest]
    · rintro _ ⟨⟩
      exact birth.trans (congrArg Interest.birth same)

/-- The grace period is the same once somebody has left. -/
theorem grace_left (now : Time.Instant) (h : Handle) (s : Slot α) (c : Cache α) :
    (c.left now h s).grace = c.grace := by
  have left : Reports (fun _ => True) (fun _ => True) c (c.left now h s) :=
    .trans (.silent rfl rfl rfl) reports_reschedule
  exact left.grace

/-- Whoever leaves takes a number along. -/
theorem sequence_unsubscribe (now : Time.Instant) (h : Handle) (c : Cache α) :
    (c.unsubscribe now h).sequence = c.nextNumber := by
  rcases unsubscribe_cases c h with ⟨s, there, member⟩ | stranger
  · have left : (c.left now h s).sequence = c.nextNumber := sequence_reschedule _
    rw [unsubscribe_member there member]
    split
    · unfold abandonEntry
      split
      · exact left
      · split <;> exact left
    · exact left
  · rw [unsubscribe_stranger stranger]
    rfl

namespace Course

variable {w w' : Course α} {h : Handle}

/-- Without grace the entry is evicted at once when the last subscriber leaves. -/
theorem Reachable.evicted_hasty (hw : w.Reachable) {i : Nat} (alive : w.cache.abandoned = false)
    (held : w.handles[i]? = some (some h)) (there : w.cache.slots.find? h.key = some s)
    (member : s.subscribers.any (fun p => p.1 == h.subscriber) = true)
    (last : s.staying h.subscriber = []) (hasty : w.cache.grace = 0) :
    Evicted h.key w { w.after (.unsubscribe h) (w.cache.unsubscribe w.now h) with
      handles := w.handles.set i none } := by
  have hasty' := (grace_left w.now h s w.cache).trans hasty
  have evicts : w.cache.unsubscribe w.now h = (w.cache.left w.now h s).evict h.key := by
    rw [unsubscribe_member there member, last, abandonEntry]
    simp [hasty']
  have step := Step.unsubscribe i alive held
  rw [evicts] at step ⊢
  exact hw.evicted rfl step there signs_reschedule

/-- With grace the entry stays when the last subscriber leaves, and an eviction pends until the
    grace period is over. -/
theorem Reachable.pends_graceful (hw : w.Reachable) (handles : List (Option Handle))
    (there : w.cache.slots.find? h.key = some s)
    (member : s.subscribers.any (fun p => p.1 == h.subscriber) = true)
    (last : s.staying h.subscriber = []) (graceful : w.cache.grace ≠ 0) :
    ∃ s' j,
      Pends { w.after (.unsubscribe h) (w.cache.unsubscribe w.now h) with handles } h.key s' j ∧
      s'.birth = s.birth ∧ j.due = some (w.now.elapsed + w.cache.grace) ∧
      j.duty = .collect w.cache.nextNumber := by
  have grace := grace_left w.now h s w.cache
  obtain ⟨timer, found, -⟩ := left_spec w.now hw.tended there member
  rw [last] at found
  have lingers : w.cache.unsubscribe w.now h =
      (w.cache.left w.now h s).abandonEntry w.now h.key w.cache.nextNumber := by
    rw [unsubscribe_member there member, last]
    rfl
  rw [lingers, abandonEntry, grace, if_neg graceful]
  simp only [found]
  refine ⟨_, _, ⟨find?_setSlot_self .., rfl, List.mem_append_right _ (List.mem_singleton_self _),
    rfl, w.cache.nextNumber, rfl, rfl⟩, rfl, rfl, rfl⟩

end Course

theorem subscriberCount_there (there : c.slots.find? k = some s) :
    c.subscriberCount k = s.subscribers.length := by
  rw [subscriberCount, there]

theorem subscriberCount_vacant (vacant : c.slots.find? k = none) : c.subscriberCount k = 0 := by
  rw [subscriberCount, vacant]

/-- The deed calls off an eviction of the query that pends. -/
def Deed.callsOff (k : Key) : Deed α → Bool
  | .subscribe l _ _ => l == k
  | .clear => true
  | .abandon => true
  | _ => false

theorem Deed.callsOff_of_concerns {deed : Deed α} (spared : deed.concerns k = false) :
    deed.callsOff k = false := by
  cases deed <;> simp_all [concerns, callsOff]

namespace Course

variable {w w' : Course α} {h : Handle}

/-- In this step the last subscriber of the query leaves. -/
structure Deserted (k : Key) (w w' : Course α) : Prop where
  step : Step w w'
  somebody : w.cache.subscriberCount k ≠ 0
  leaves : ∃ n h, w'.past = n :: w.past ∧ n.deed = .unsubscribe h ∧ h.key = k
  nobody : w'.cache.subscriberCount k = 0

/-- Who is the last to leave is the one subscriber. -/
theorem Deserted.last (d : Deserted k w w') (hw : w.Reachable) :
    ∃ (i : Nat) (h : Handle) (s : Slot α), w.cache.abandoned = false ∧
      w.handles[i]? = some (some h) ∧ h.key = k ∧ w.cache.slots.find? h.key = some s ∧
      s.subscribers.any (fun p => p.1 == h.subscriber) = true ∧ s.staying h.subscriber = [] ∧
      w' = { w.after (.unsubscribe h) (w.cache.unsubscribe w.now h) with
        handles := w.handles.set i none } := by
  obtain ⟨step, somebody, ⟨n, h, past, deed, rfl⟩, nobody⟩ := d
  obtain ⟨i, alive, held, rfl⟩ := step.of_unsubscribe past deed
  have count : (w.cache.unsubscribe w.now h).subscriberCount h.key = 0 := nobody
  rcases unsubscribe_cases w.cache h with ⟨s, there, member⟩ | stranger
  · refine ⟨i, h, s, alive, held, rfl, there, member, ?_, rfl⟩
    by_contra stay
    obtain ⟨timer, found⟩ := find?_unsubscribe w.now hw.tended there member stay
    rw [subscriberCount_there found] at count
    exact stay (List.eq_nil_of_length_eq_zero count)
  · rw [unsubscribe_stranger stranger] at count
    exact (somebody count).elim

/-- When the one subscriber leaves, nobody is left. -/
theorem Reachable.deserted (hw : w.Reachable) {i : Nat} (alive : w.cache.abandoned = false)
    (held : w.handles[i]? = some (some h)) (there : w.cache.slots.find? h.key = some s)
    (member : s.subscribers.any (fun p => p.1 == h.subscriber) = true)
    (last : s.staying h.subscriber = []) :
    Deserted h.key w { w.after (.unsubscribe h) (w.cache.unsubscribe w.now h) with
      handles := w.handles.set i none } := by
  refine ⟨.unsubscribe i alive held, ?_, ⟨_, h, rfl, rfl, rfl⟩, ?_⟩
  · rw [subscriberCount_there there]
    intro none
    rw [List.eq_nil_of_length_eq_zero none] at member
    exact nomatch member
  · by_cases hasty : w.cache.grace = 0
    · exact subscriberCount_vacant (hw.evicted_hasty alive held there member last hasty).gone
    · obtain ⟨s', j, pends, -⟩ :=
        hw.pends_graceful (w.handles.set i none) there member last hasty
      rw [subscriberCount_there pends.there, pends.lonely]
      rfl

/-- Nobody can leave a query last that has no subscribers. -/
theorem Deserted.attended (deserted : Deserted k w w') (there : w.cache.slots.find? k = some s) :
    s.subscribers ≠ [] := by
  intro lonely
  refine deserted.somebody ?_
  rw [subscriberCount_there there, lonely]
  rfl

/-! ### What a step does to the entry of a query -/

/-- What can become of the entry of a query in one step. -/
inductive Turn (k : Key) (w w' : Course α) : Prop
  /-- The entry and its subscribers are left alone. -/
  | spared (spares : Spares k w.cache w'.cache)
      (quiet : ∀ n, w'.past = n :: w.past → n.deed.callsOff k = false)
  /-- Somebody subscribes to the entry, or to a new one. -/
  | joined {n : Note α} {s' : Slot α} (past : w'.past = n :: w.past)
      (off : n.deed.callsOff k = true) (there : w'.cache.slots.find? k = some s')
      (attended : s'.subscribers ≠ [])
      (birth : ∀ s, w.cache.slots.find? k = some s → s'.birth = s.birth)
  /-- Somebody leaves, and others stay. -/
  | left {s s' : Slot α} (there : w.cache.slots.find? k = some s) (attended : s.subscribers ≠ [])
      (there' : w'.cache.slots.find? k = some s') (attended' : s'.subscribers ≠ [])
      (birth : s'.birth = s.birth)
  /-- The last subscriber leaves, and an eviction is scheduled. -/
  | deserted {s s' : Slot α} {j : Job} (deserted : Deserted k w w')
      (there : w.cache.slots.find? k = some s) (pends : w'.Pends k s' j)
      (birth : s'.birth = s.birth) (due : j.due = some (w.now.elapsed + w.cache.grace))
      (duty : j.duty = .collect w.cache.nextNumber)
  /-- The last subscriber leaves, and the entry is evicted at once. -/
  | hasty (deserted : Deserted k w w') (hasty : w.cache.grace = 0) (evicted : Evicted k w w')
  /-- The eviction that pends is carried out. -/
  | collected {s : Slot α} {j : Job} (pends : w.Pends k s j)
      (due : j.isDue w.now.elapsed = true) (evicted : Evicted k w w')
  /-- Every entry is dropped. -/
  | dropped {n : Note α} (past : w'.past = n :: w.past) (all : n.deed = .clear ∨ n.deed = .abandon)
      (vacant : w'.cache.slots.find? k = none)

/-- Nothing else becomes of an entry. -/
theorem Step.turn (step : Step w w') (hw : w.Reachable) (k : Key) : Turn k w w' := by
  by_cases spared : ∀ n, w'.past = n :: w.past → n.deed.concerns k = false
  · exact .spared (step.spares spared) fun n past => Deed.callsOff_of_concerns (spared n past)
  cases step with
  | subscribe l producer o alive done =>
    obtain rfl : l = k := by simpa [after, Deed.concerns] using spared
    obtain ⟨s', there, attended, birth⟩ := find?_subscribe done
    exact .joined rfl (by simp [Deed.callsOff]) there attended birth
  | @unsubscribe h i alive held =>
    obtain rfl : h.key = k := by simpa [after, Deed.concerns] using spared
    rcases unsubscribe_cases w.cache h with ⟨s, there, member⟩ | stranger
    · by_cases last : s.staying h.subscriber = []
      · have deserted := hw.deserted alive held there member last
        by_cases hasty : w.cache.grace = 0
        · exact .hasty deserted hasty (hw.evicted_hasty alive held there member last hasty)
        · obtain ⟨s', j, pends, birth, due, duty⟩ :=
            hw.pends_graceful (w.handles.set i none) there member last hasty
          exact .deserted deserted there pends birth due duty
      · obtain ⟨timer, found⟩ := find?_unsubscribe w.now hw.tended there member last
        refine .left there (fun lonely => ?_) found last rfl
        simp [lonely] at member
    · refine .spared (spares_unsubscribe_stranger stranger).booked fun n past => ?_
      obtain rfl := (List.cons.inj past).1
      rfl
  | clear alive =>
    exact .dropped rfl (.inl rfl) (congrArg (·.find? k) (slots_clear w.now w.cache))
  | abandon =>
    exact .dropped rfl (.inr rfl) (congrArg (·.find? k) (slots_abandon w.now w.cache))
  | @run σ supplier state i listed due =>
    cases duty : i.duty with
    | collect token =>
      obtain rfl : i.key = k := by simpa [after, Deed.concerns, duty] using spared
      obtain ⟨s, pends⟩ := hw.pends_of_collect listed duty
      exact .collected pends due (pends.evicted hw supplier state due)
    | _ => exact (spared (by simp [after, Deed.concerns, duty])).elim
  | _ => exact (spared (by simp [after, Deed.concerns])).elim

/-- An eviction that pends goes on pending, is called off, or is carried out when it is due. -/
theorem Step.pends (step : Step w w') (hw : w.Reachable) (p : w.Pends k s j) :
    (∃ s', w'.Pends k s' j ∧ s'.birth = s.birth) ∨
      (∃ n, w'.past = n :: w.past ∧ n.deed.callsOff k = true) ∨
      (Evicted k w w' ∧ j.isDue w.now.elapsed = true) := by
  cases step.turn hw k with
  | spared spares quiet => exact .inl (p.spared hw (hw.leads (.single step)) spares)
  | joined past off => exact .inr (.inl ⟨_, past, off⟩)
  | left there attended =>
    obtain rfl := Option.some.inj (p.there.symm.trans there)
    exact (attended p.lonely).elim
  | deserted deserted => exact (deserted.attended p.there p.lonely).elim
  | hasty deserted => exact (deserted.attended p.there p.lonely).elim
  | collected pends due evicted =>
    obtain rfl := List.singleton_inj.mp ((p.only hw).symm.trans (pends.only hw))
    exact .inr (.inr ⟨evicted, due⟩)
  | dropped past all =>
    refine .inr (.inl ⟨_, past, ?_⟩)
    rcases all with all | all <;> rw [all] <;> rfl

/-- An eviction that pends did so before, or it was scheduled now, as the last subscriber left. -/
theorem Step.pended (step : Step w w') (hw : w.Reachable) (p : w'.Pends k s' j) :
    (∃ s, w.Pends k s j ∧ s.birth = s'.birth ∧
      ∀ n, w'.past = n :: w.past → n.deed.callsOff k = false) ∨
      (Deserted k w w' ∧ j.due = some (w.now.elapsed + w.cache.grace) ∧
        j.duty = .collect w.cache.nextNumber) := by
  cases step.turn hw k with
  | spared spares quiet =>
    obtain ⟨s, pends, birth⟩ := p.spared' spares
    exact .inl ⟨s, pends, birth, quiet⟩
  | joined past off there attended =>
    obtain rfl := Option.some.inj (p.there.symm.trans there)
    exact (attended p.lonely).elim
  | left there attended there' attended' =>
    obtain rfl := Option.some.inj (p.there.symm.trans there')
    exact (attended' p.lonely).elim
  | deserted deserted there pends birth due duty =>
    have hw' := hw.leads (.single step)
    obtain rfl := List.singleton_inj.mp ((p.only hw').symm.trans (pends.only hw'))
    exact .inr ⟨deserted, due, duty⟩
  | hasty deserted hasty evicted => exact nomatch p.there.symm.trans evicted.gone
  | collected pends due evicted => exact nomatch p.there.symm.trans evicted.gone
  | dropped past all vacant => exact nomatch p.there.symm.trans vacant

/-! ### No token is used twice -/

/-- An eviction that pends was there before, or its token is new. -/
theorem Reachable.pended (hw : w.Reachable) (leads : w.Leads w') {token : Nat}
    (p : w'.Pends k s' j) (duty : j.duty = .collect token) :
    (∃ s, w.Pends k s j) ∨ w.cache.sequence < token := by
  induction leads generalizing s' with
  | refl => exact .inl ⟨s', p⟩
  | @tail v v' before step ih =>
    rcases step.pended (hw.leads before) p with ⟨s, p, -⟩ | ⟨-, -, begun⟩
    · exact ih p
    · have later : w.cache.sequence ≤ v.cache.sequence :=
        Cell.Leads.sequence (Course.Leads.cell (k := k) before hw.booked)
      rw [duty] at begun
      rw [Duty.collect.inj begun]
      exact .inr (Nat.lt_succ_of_le later)

/-- A token is a number that was given out. -/
theorem Reachable.token_le (hw : w.Reachable) {token : Nat} (p : w.Pends k s j)
    (duty : j.duty = .collect token) : token ≤ w.cache.sequence := by
  obtain ⟨grace, now, run⟩ := hw
  induction run generalizing s with
  | refl => exact nomatch (fresh_vacant grace now k).symm.trans p.there
  | @tail v v' before step ih =>
    have hv : v.Reachable := ⟨grace, now, before⟩
    rcases step.pended hv p with ⟨s, p, -⟩ | ⟨deserted, -, begun⟩
    · have later : v.cache.sequence ≤ v'.cache.sequence :=
        Cell.Leads.sequence (Course.Leads.cell (k := k) (.single step) hv.booked)
      exact Nat.le_trans (ih p) later
    · obtain ⟨i, h, s, -, -, -, -, -, -, rfl⟩ := deserted.last hv
      rw [duty] at begun
      rw [Duty.collect.inj begun]
      exact Nat.le_of_eq (sequence_unsubscribe v.now h v.cache).symm

/-- Two evictions of a query that carry the same token are one. -/
theorem Reachable.same_eviction (hw : w.Reachable) (leads : w.Leads w') {i : Job}
    (hj : j ∈ w.evictions k) (hi : i ∈ w'.evictions k) (same : i.duty = j.duty) : i = j := by
  obtain ⟨listed, rfl, token, duty⟩ := mem_evictions.mp hj
  obtain ⟨listed', own, -⟩ := mem_evictions.mp hi
  obtain ⟨s, p⟩ := hw.pends_of_collect listed duty
  obtain ⟨s', p'⟩ := (hw.leads leads).pends_of_collect listed' (same.trans duty)
  rw [own] at p'
  rcases hw.pended leads p' (same.trans duty) with ⟨s'', before⟩ | new
  · exact List.singleton_inj.mp ((before.only hw).symm.trans (p.only hw))
  · exact absurd (hw.token_le p duty) (Nat.not_le_of_lt new)

/-- A token that no eviction carries has nothing collected. -/
theorem Reachable.collect_outdated (hw : w.Reachable) {token : Nat}
    (outdated : ∀ j ∈ w.evictions k, j.duty ≠ .collect token) :
    w.cache.collect k token = w.cache := by
  unfold collect
  cases hs : w.cache.slots.find? k with
  | none => rfl
  | some s =>
    dsimp only
    split
    · rename_i expired
      obtain ⟨nobody, same⟩ := Bool.and_eq_true_iff.mp expired
      obtain ⟨j, p⟩ := hw.pends_of_lonely hs (List.isEmpty_iff.mp nobody)
      obtain ⟨token', duty, pends⟩ := p.awaited
      obtain rfl : token' = token := by simpa [pends] using same
      exact (outdated j (mem_evictions.mpr ⟨p.listed, p.own, token', duty⟩) duty).elim
    · rfl

end Course

end TaskWatch.Cache
