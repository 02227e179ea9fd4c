import TaskWatch.Proofs.Cache.Serving
import TaskWatch.Proofs.Cache.Staff

/-! What spares a query its timer and its eviction.

    Two kinds of jobs wait for their time: timers poll, and evictions collect. Most of what is done to a
    cache leaves them alone: `Spares` says that a query keeps its entry with its subscribers, its timer
    and its eviction, and gets no new job that waits. Only what is done to the subscribers of a query, or
    drops its entry, does not spare it; `Course.Step.spares` says that there is nothing else. -/

namespace TaskWatch.Cache

variable {α : Type} {now : Time.Instant} {k l : Key} {c c' c'' : Cache α} {s s' : Slot α}
  {m : Nat}

/-- The job waits for its time. -/
def Job.isTimer (j : Job) : Bool :=
  match j.duty with
  | .poll _ => true
  | .collect _ => true
  | _ => false

/-- The subscribers of an entry and what waits for them. -/
structure Interest where
  /-- The subscriber for whom the entry was made. -/
  birth : Nat
  subscribers : List (Nat × Nat)
  timer : Option Timer
  eviction : Option Eviction

/-- Who is interested in the entry of a slot. -/
def Slot.interest (s : Slot α) : Interest :=
  { birth := s.birth, subscribers := s.subscribers, timer := s.timer, eviction := s.eviction }

/-! ### What spares a query -/

/-- Whatever was done to the cache, the query keeps its entry, the subscribers and what waits for them.
    A timer may have been put off. -/
structure Spares (k : Key) (c c' : Cache α) : Prop where
  slot : (c'.slots.find? k).map Slot.interest = (c.slots.find? k).map Slot.interest
  jobs : ∀ j ∈ c'.agenda, j.key = k → j.isTimer = true → ∃ i ∈ c.agenda,
    i.key = j.key ∧ i.number = j.number ∧ i.duty = j.duty ∧ (i = j ∨ ∃ period, j.duty = .poll period)

namespace Spares

theorem refl (k : Key) (c : Cache α) : Spares k c c :=
  ⟨rfl, fun j hj _ _ => ⟨j, hj, rfl, rfl, rfl, .inl rfl⟩⟩

theorem trans (h : Spares k c c') (h' : Spares k c' c'') : Spares k c c'' := by
  refine ⟨h'.slot.trans h.slot, fun j hj own waits => ?_⟩
  obtain ⟨i, hi, key, number, duty, same⟩ := h'.jobs j hj own waits
  obtain ⟨i', hi', key', number', duty', same'⟩ :=
    h.jobs i hi (key.trans own) (by rwa [Job.isTimer, duty])
  refine ⟨i', hi', key'.trans key, number'.trans number, duty'.trans duty, ?_⟩
  rcases same with rfl | polls
  · exact same'
  · exact .inr polls

/-- No job that waits is begun. -/
theorem of_jobs (slot : (c'.slots.find? k).map Slot.interest = (c.slots.find? k).map Slot.interest)
    (jobs : ∀ j ∈ c'.agenda, j.isTimer = true → j ∈ c.agenda) : Spares k c c' :=
  ⟨slot, fun j hj _ waits => ⟨j, jobs j hj waits, rfl, rfl, rfl, .inl rfl⟩⟩

/-- What the cache reported is booked. -/
theorem booked (h : Spares k c c') : Spares k c { c' with journal := [] } := ⟨h.slot, h.jobs⟩

theorem slot_there (h : Spares k c c') (there : c.slots.find? k = some s) :
    ∃ s', c'.slots.find? k = some s' ∧ s'.interest = s.interest := by
  have same := h.slot
  rw [there, Option.map_some] at same
  exact Option.map_eq_some_iff.mp same

theorem slot_there' (h : Spares k c c') (there : c'.slots.find? k = some s') :
    ∃ s, c.slots.find? k = some s ∧ s'.interest = s.interest := by
  have same := h.slot
  rw [there, Option.map_some] at same
  exact (Option.map_eq_some_iff.mp same.symm).imp fun _ h => h.imp_right Eq.symm

end Spares

/-- A job that waits was on the agenda before another was given up. -/
theorem timer_abort {j : Job} (hj : j ∈ (c.abort now m).agenda) (waits : j.isTimer = true) :
    j ∈ c.agenda ∧ j.number ≠ m := by
  rcases agenda_abort now m c with h | ⟨i, rfl, -, producer, call, h⟩
  · rw [h] at hj
    exact Agenda.mem_remove.mp hj
  · rw [h] at hj
    rcases List.mem_append.mp hj with hj | hj
    · exact Agenda.mem_remove.mp hj
    · obtain rfl := List.mem_singleton.mp hj
      exact nomatch waits

theorem timer_abort? {m : Option Nat} {j : Job} (hj : j ∈ (c.abort? now m).agenda)
    (waits : j.isTimer = true) : j ∈ c.agenda ∧ m ≠ some j.number := by
  cases m with
  | none => exact ⟨hj, nofun⟩
  | some m => exact (timer_abort hj waits).imp_right fun h same => h (Option.some.inj same).symm

/-- A job that waits is given up with the slot that names it. -/
theorem timer_abortAll {j : Job} (hj : j ∈ (c.abortAll now s).agenda) (waits : j.isTimer = true) :
    j ∈ c.agenda ∧ ∀ p, ¬ s.Names j.number p := by
  obtain ⟨hj, eviction⟩ := timer_abort? hj waits
  obtain ⟨hj, timer⟩ := timer_abort? hj waits
  obtain ⟨hj, flight⟩ := timer_abort? hj waits
  refine ⟨hj, fun p h => ?_⟩
  generalize j.number = n at flight timer eviction h
  cases h with
  | flight flying => exact flight (by rw [flying]; rfl)
  | timer runs => exact timer (by rw [runs]; rfl)
  | eviction pends => exact eviction (by rw [pends]; rfl)

theorem timer_foldl_abortAll {j : Job} (slots : List (Slot α))
    (hj : j ∈ (slots.foldl (fun c s => c.abortAll now s) c).agenda) (waits : j.isTimer = true) :
    j ∈ c.agenda ∧ ∀ s ∈ slots, ∀ p, ¬ s.Names j.number p := by
  induction slots generalizing c with
  | nil => exact ⟨hj, by simp⟩
  | cons s rest ih =>
    rw [List.foldl_cons] at hj
    obtain ⟨hj, unnamed⟩ := ih hj
    obtain ⟨hj, unnamed'⟩ := timer_abortAll hj waits
    exact ⟨hj, List.forall_mem_cons.mpr ⟨unnamed', unnamed⟩⟩

/-- The slot of another query, or one with the same subscribers, timer and eviction, takes the place
    of a slot. -/
theorem interest_setSlot (c : Cache α) (s : Slot α)
    (same : l = k → (c.slots.find? k).map Slot.interest = some s.interest) :
    ((c.setSlot k s).slots.find? l).map Slot.interest = (c.slots.find? l).map Slot.interest := by
  rw [find?_setSlot]
  split
  · rename_i hl
    exact hl ▸ (same hl).symm
  · rfl

theorem spares_startFetch {supersede : Bool} : Spares l c (c.startFetch now k supersede).1 := by
  -- The job that is begun for a fetch does not wait, nor does the call that is let go of.
  have launched (m : Option Nat) (journal : List Event) {s : Slot α}
      (there : c.slots.find? k = some s) : Spares l c (launch now k s { c with
        agenda := (c.abort? now m).agenda, journal }) := by
    refine .of_jobs (interest_setSlot _ _ fun _ => congrArg (Option.map _) there) fun j hj waits => ?_
    rcases List.mem_append.mp hj with hj | hj
    · exact (timer_abort? hj waits).1
    · obtain rfl := List.mem_singleton.mp hj
      exact nomatch waits
  cases hs : c.slots.find? k with
  | none => rw [startFetch_vacant hs]; exact .refl l c
  | some s =>
    cases hf : s.inFlight with
    | none => rw [startFetch_idle hs hf]; exact launched none c.journal hs
    | some f =>
      cases supersede with
      | false => rw [startFetch_joined hs hf]; exact .refl l c
      | true =>
        rw [startFetch_superseding hs hf, abort_eq]
        exact launched (some f.job) _ hs

theorem spares_settle {g : Nat} {result : Except String α} :
    Spares l c (c.settle now k g result) := by
  unfold settle
  split
  · exact .refl l c
  · cases hs : c.slots.find? k with
    | none => rw [commit_vacant hs]; exact .of_jobs rfl fun _ hj _ => hj
    | some s =>
      by_cases current : s.inFlight.map Flight.generation = some g
      · obtain ⟨f, flying, rfl⟩ := Option.map_eq_some_iff.mp current
        rw [commit_current hs flying]
        cases result with
        | ok a =>
          exact .of_jobs (interest_setSlot c _ fun _ => congrArg (Option.map _) hs) fun _ hj _ => hj
        | error message =>
          exact .of_jobs (interest_setSlot _ _ fun _ => congrArg (Option.map _) hs) fun _ hj _ => hj
      · rw [commit_overtaken hs current]
        exact .of_jobs rfl fun _ hj _ => hj

theorem spares_without (j : Job) : Spares l c (c.without j) :=
  .of_jobs rfl fun _ hi _ => (Agenda.mem_remove.mp hi).1

/-- A timer is put off, and fetches are started. -/
theorem spares_tick {j : Job} {period : Nat} (listed : j ∈ c.agenda) (duty : j.duty = .poll period) :
    Spares l c (c.tick now j period) := by
  have scheduled (c : Cache α) : Spares l c (c.scheduledFetch now j.key) := by
    unfold scheduledFetch
    dsimp only
    split
    · exact spares_startFetch
    · exact spares_startFetch.trans (.of_jobs rfl fun _ hj _ => hj)
  have again : ∀ (n : Nat) (c : Cache α), Spares l c (repeated (scheduledFetch now j.key) n c) := by
    intro n
    induction n with
    | zero => exact fun c => .refl l c
    | succ n ih => exact fun c => (scheduled c).trans (ih _)
  have put_off (due : Nat) : Spares l c { c with
      agenda := c.agenda.remove j.number ++ [{ j with due := some due, turn := now.turn }] } := by
    refine ⟨rfl, fun i hi _ waits => ?_⟩
    rcases List.mem_append.mp hi with hi | hi
    · exact ⟨i, (Agenda.mem_remove.mp hi).1, rfl, rfl, rfl, .inl rfl⟩
    · obtain rfl := List.mem_singleton.mp hi
      exact ⟨j, listed, rfl, rfl, rfl, .inr ⟨period, duty⟩⟩
  exact (put_off _).trans (again _ _)

theorem spares_place {j : Job} {g producer call : Nat} {due : Option Nat} :
    Spares l c { c with
      agenda := c.agenda.change j.number (fun j => { j with duty := .reply g producer call, due }) } := by
  refine .of_jobs rfl fun i hi waits => ?_
  obtain ⟨i, hi, rfl⟩ := List.mem_map.mp hi
  split at waits
  · exact nomatch waits
  · rename_i other
    rwa [if_neg other]

theorem spares_answered {waits : Job → Bool} (calls : ∀ j, waits j = true → j.isReply = true) :
    Spares l c { c with agenda := Agenda.answered now waits c.agenda } := by
  refine .of_jobs rfl fun j hj timer => ?_
  obtain ⟨i, hi, rfl⟩ := mem_answered.mp hj
  split at timer
  · rename_i waiting
    have reply := calls i waiting
    unfold Job.isReply at reply
    unfold Job.isTimer at timer
    split at reply
    · rename_i duty
      simp [duty] at timer
    · exact nomatch reply
  · rename_i other
    rwa [if_neg other]

theorem spares_reschedule_other (hl : l ≠ k) : Spares l c (c.reschedule now k) := by
  cases hs : c.slots.find? k with
  | none => rw [reschedule_vacant hs]; exact .refl l c
  | some s =>
    have stopped : Spares l c (c.stopTimer now k s.timer) :=
      .of_jobs (by rw [slots_stopTimer]) fun j hj waits => by
        rw [agenda_stopTimer] at hj
        exact (timer_abort? hj waits).1
    rw [reschedule_eq hs]
    split
    · exact .refl l c
    · cases s.period? with
      | none =>
        exact stopped.trans (.of_jobs (interest_setSlot _ _ fun h => (hl h).elim) fun _ hj _ => hj)
      | some period =>
        refine stopped.trans ⟨interest_setSlot _ _ fun h => (hl h).elim, fun j hj own waits => ?_⟩
        rcases List.mem_append.mp hj with hj | hj
        · exact ⟨j, hj, rfl, rfl, rfl, .inl rfl⟩
        · obtain rfl := List.mem_singleton.mp hj
          exact (hl own.symm).elim

theorem spares_joined_other (hl : l ≠ k) (producer : Nat) (o : Options) :
    Spares l c (c.joined now k s producer o) := by
  refine .of_jobs ?_ fun j hj waits => (timer_abort? (c := c.numbered) hj waits).1
  rw [joined, interest_setSlot _ _ fun h => (hl h).elim, abort?_eq]
  rfl

theorem spares_count (f : Stats → Stats) : Spares l c (c.count f) := .of_jobs rfl fun _ hj _ => hj

/-- Who has joined may have a fetch started, and nothing else. -/
theorem spares_served (now : Time.Instant) (k : Key) (s : Slot α) (producer : Nat) (o : Options)
    (c : Cache α) : Spares l (c.joined now k s producer o) (c.served now k s producer o) := by
  unfold served
  dsimp only
  split
  · exact .of_jobs rfl fun _ hj _ => hj
  · split
    · exact spares_count _
    · split <;> exact (spares_count _).trans spares_startFetch

theorem valid_of_subscribe {producer : Nat} {o : Options} {h : Handle}
    (done : c.subscribe now k producer o = .ok (c', h)) : k.isValid = true := by
  unfold subscribe at done
  split at done
  · exact nomatch done
  · rename_i valid
    simpa using valid

/-- Somebody subscribes to another query. -/
theorem spares_subscribe_other {producer : Nat} {o : Options} {h : Handle} (hl : l ≠ k)
    (done : c.subscribe now k producer o = .ok (c', h)) : Spares l c c' := by
  have valid := valid_of_subscribe done
  cases hs : c.slots.find? k with
  | none =>
    rw [subscribe_vacant valid hs, Except.ok.injEq, Prod.mk.injEq] at done
    obtain ⟨rfl, -⟩ := done
    have found : Spares l c (c.numbered.found k producer o c.nextNumber) :=
      .of_jobs (interest_setSlot _ _ fun h => (hl h).elim) fun _ hj _ => hj
    exact (found.trans spares_startFetch).trans (spares_reschedule_other hl)
  | some s =>
    rw [subscribe_there valid hs, Except.ok.injEq, Prod.mk.injEq] at done
    obtain ⟨rfl, -⟩ := done
    exact ((spares_joined_other hl producer o).trans (spares_served now k s producer o c)).trans
      (spares_reschedule_other hl)

/-! ### Who leaves -/

/-- The subscribers who stay when one leaves. -/
def Slot.staying (s : Slot α) (id : Nat) : List (Nat × Nat) :=
  s.subscribers.filter (fun p => p.1 != id)

/-- The cache once a subscriber has left, before anything is done about an entry that is deserted. -/
def left (now : Time.Instant) (h : Handle) (s : Slot α) (c : Cache α) : Cache α :=
  (c.numbered.setSlot h.key { s with subscribers := s.staying h.subscriber }).reschedule now h.key

theorem unsubscribe_member {h : Handle} (there : c.slots.find? h.key = some s)
    (member : s.subscribers.any (fun p => p.1 == h.subscriber) = true) :
    c.unsubscribe now h =
      if (s.staying h.subscriber).isEmpty then
        (c.left now h s).abandonEntry now h.key c.nextNumber
      else c.left now h s := by
  have found : c.numbered.slots.find? h.key = some s := there
  unfold unsubscribe
  simp only [found, member, if_true]
  rfl

/-- Who is not among the subscribers leaves nothing behind. -/
theorem unsubscribe_stranger {h : Handle}
    (stranger : ∀ s, c.slots.find? h.key = some s →
      s.subscribers.any (fun p => p.1 == h.subscriber) = false) :
    c.unsubscribe now h = c.numbered := by
  unfold unsubscribe
  dsimp only
  cases hs : c.numbered.slots.find? h.key with
  | none => rfl
  | some s =>
    dsimp only
    rw [stranger s hs]
    rfl

/-- Who is not among the subscribers spares every query. -/
theorem spares_unsubscribe_stranger {h : Handle}
    (stranger : ∀ s, c.slots.find? h.key = some s →
      s.subscribers.any (fun p => p.1 == h.subscriber) = false) :
    Spares l c (c.unsubscribe now h) := by
  rw [unsubscribe_stranger stranger]
  exact .of_jobs rfl fun _ hj _ => hj

/-- Whoever unsubscribes is a subscriber of the entry that there is, or a stranger to it. -/
theorem unsubscribe_cases (c : Cache α) (h : Handle) :
    (∃ s, c.slots.find? h.key = some s ∧
      s.subscribers.any (fun p => p.1 == h.subscriber) = true) ∨
    ∀ s, c.slots.find? h.key = some s →
      s.subscribers.any (fun p => p.1 == h.subscriber) = false := by
  cases hs : c.slots.find? h.key with
  | none => exact .inr fun s there => nomatch there
  | some s =>
    cases member : s.subscribers.any (fun p => p.1 == h.subscriber) with
    | true => exact .inl ⟨s, rfl, member⟩
    | false => exact .inr fun s' hs' => Option.some.inj hs' ▸ member

theorem spares_left_other {h : Handle} (hl : l ≠ h.key) : Spares l c (c.left now h s) := by
  have stays : Spares l c
      (c.numbered.setSlot h.key { s with subscribers := s.staying h.subscriber }) :=
    .of_jobs (interest_setSlot _ _ fun h => (hl h).elim) fun _ hj _ => hj
  exact stays.trans (spares_reschedule_other hl)

theorem spares_evict_other (hl : l ≠ k) : Spares l c (c.evict k) :=
  .of_jobs (congrArg (Option.map Slot.interest) ((Table.find?_erase c.slots k l).trans (if_neg hl)))
    fun _ hj _ => hj

theorem spares_abandonEntry_other {token : Nat} (hl : l ≠ k) :
    Spares l c (c.abandonEntry now k token) := by
  unfold abandonEntry
  split
  · exact spares_evict_other hl
  · cases hs : c.slots.find? k with
    | none => exact .refl l c
    | some s =>
      refine ⟨interest_setSlot _ _ fun h => (hl h).elim, fun j hj own waits => ?_⟩
      rcases List.mem_append.mp hj with hj | hj
      · exact ⟨j, hj, rfl, rfl, rfl, .inl rfl⟩
      · obtain rfl := List.mem_singleton.mp hj
        exact (hl own.symm).elim

/-- Somebody leaves another query. -/
theorem spares_unsubscribe_other {h : Handle} (hl : l ≠ h.key) :
    Spares l c (c.unsubscribe now h) := by
  rcases unsubscribe_cases c h with ⟨s, there, member⟩ | stranger
  · rw [unsubscribe_member there member]
    split
    · exact (spares_left_other hl).trans (spares_abandonEntry_other hl)
    · exact spares_left_other hl
  · exact spares_unsubscribe_stranger stranger

theorem spares_collect_other {token : Nat} (hl : l ≠ k) : Spares l c (c.collect k token) := by
  unfold collect
  split
  · exact .refl l c
  · split
    · exact spares_evict_other hl
    · exact .refl l c

theorem spares_invalidate : Spares l c (c.invalidate now k).1 := by
  unfold invalidate
  cases hs : c.slots.find? k with
  | none => exact .refl l c
  | some s =>
    have marked : Spares l c ((c.setSlot k { s with invalidated := true }).report
        (.invalidated k (!s.subscribers.isEmpty))) :=
      .of_jobs (interest_setSlot c _ fun _ => congrArg (Option.map _) hs) fun _ hj _ => hj
    dsimp only
    split
    · exact marked.trans spares_startFetch
    · exact marked

/-! ### Steps that spare a query -/

/-- The deed can change who is interested in the query, or drop its entry. -/
def Deed.concerns (k : Key) : Deed α → Bool
  | .subscribe l _ _ => l == k
  | .unsubscribe h => h.key == k
  | .clear => true
  | .abandon => true
  | .run j _ => j.key == k && match j.duty with
    | .collect _ => true
    | _ => false
  | _ => false

theorem Course.Step.spares {w w' : Course α} (h : Step w w')
    (spared : ∀ n, w'.past = n :: w.past → n.deed.concerns k = false) :
    Spares k w.cache w'.cache := by
  cases h with
  | subscribe l producer o alive done =>
    have other : k ≠ l := fun hl => by simpa [Deed.concerns, hl] using spared _ rfl
    exact (spares_subscribe_other other done).booked
  | @unsubscribe h i alive held =>
    have other : k ≠ h.key := fun hl => by simpa [Deed.concerns, hl] using spared _ rfl
    exact (spares_unsubscribe_other other).booked
  | refetch l alive done =>
    unfold Cache.refetch at done
    split at done
    · obtain rfl := Except.ok.inj done
      exact spares_startFetch.booked
    · exact nomatch done
  | invalidate l alive => exact spares_invalidate.booked
  | clear alive => exact nomatch spared _ rfl
  | abandon => exact nomatch spared _ rfl
  | @run σ supplier s j listed due =>
    refine Spares.booked ?_
    unfold runJob
    cases duty : j.duty with
    | call g producer => exact spares_place
    | reply g producer call => exact (spares_without j).trans spares_settle
    | release producer call => exact spares_without j
    | poll period => exact spares_tick listed duty
    | collect token =>
      have other : k ≠ j.key := fun hl => by simpa [Deed.concerns, hl, duty] using spared _ rfl
      exact (spares_without j).trans (spares_collect_other other)
  | straggle l g answer started given_up unsettled => exact spares_settle.booked
  | answer waits calls => exact spares_answered calls
  | pass now later => exact .refl k _
  | look i held => exact .refl k _
  | forget i gone => exact .refl k _

end TaskWatch.Cache
