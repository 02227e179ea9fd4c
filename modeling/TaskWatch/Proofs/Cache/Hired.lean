import TaskWatch.Proofs.Cache.Balance

/-! Which producer a fetch calls.

    Whoever subscribes to a query brings a producer along, and the slot keeps the one that was brought
    last. A fetch takes it from the slot as it is started, and from then on its job keeps it: whoever
    leaves, or brings another producer before the job has run, changes nothing of that.

    `Retains` says this of an operation, and each operation has one lemma; only who subscribes changes
    what a slot keeps. In the book it shows as `Meant`: every job and every call has the producer that
    was the latest when its fetch was started. -/

namespace TaskWatch.Cache

variable {α : Type} {now : Time.Instant} {k l : Key} {c c' c'' : Cache α} {s s' : Slot α} {p : Nat}
  {x : FetchId × Nat}

/-! ### Producers in a cache and in the book -/

/-- The producer that the slot of a query keeps for its fetches. -/
def producer? (c : Cache α) (k : Key) : Option Nat := (c.slots.find? k).map (·.producer)

namespace Deed

/-- The producer that the deed brings along for the query. -/
def brings? (k : Key) : Deed α → Option Nat
  | .subscribe l producer _ => if l = k then some producer else none
  | _ => none

/-- Something is done for which a fetch of the query may be started: somebody subscribes to it or
    fetches it anew, it is invalidated, or its timer ticks. -/
inductive Occasion (k : Key) : Deed α → Prop
  | subscribe (producer : Nat) (o : Options) : Occasion k (.subscribe k producer o)
  | refetch : Occasion k (.refetch k)
  | invalidate : Occasion k (.invalidate k)
  | tick {j : Job} {period : Nat} {answer : Option (Except String α)} (own : j.key = k)
      (duty : j.duty = .poll period) : Occasion k (.run j answer)

theorem Starts.occasion {deed : Deed α} (h : deed.Starts c k) : deed.Occasion k := by
  cases h with
  | subscribe producer o => exact .subscribe producer o
  | refetch => exact .refetch
  | invalidate there attended => exact .invalidate
  | poll listed own duty => exact .tick own duty

end Deed

/-- The producer that was brought along by whoever was the last to subscribe to the query. -/
def latestProducer (k : Key) (past : List (Note α)) : Option Nat :=
  past.findSome? (fun n => n.deed.brings? k)

/-- The fetch was started at some time, and this producer was the latest then. -/
def Meant (past : List (Note α)) (x : FetchId × Nat) : Prop :=
  ∃ n older, n :: older <:+ past ∧ x.1 ∈ starts n.events ∧
    latestProducer x.1.1 (n :: older) = some x.2

theorem latestProducer_cons_of_none {n : Note α} {past : List (Note α)}
    (none : n.deed.brings? k = none) : latestProducer k (n :: past) = latestProducer k past := by
  rw [latestProducer, List.findSome?_cons, none]
  rfl

theorem latestProducer_cons_of_some {n : Note α} {past : List (Note α)}
    (brought : n.deed.brings? k = some p) : latestProducer k (n :: past) = some p := by
  rw [latestProducer, List.findSome?_cons, brought]

/-- What was meant at some time stays so. -/
theorem Meant.later {older past : List (Note α)} (h : Meant older x) (earlier : older <:+ past) :
    Meant past x := by
  obtain ⟨n, first, begun, started, latest⟩ := h
  exact ⟨n, first, begun.trans earlier, started, latest⟩

/-! ### What leaves the producers of slots and jobs alone -/

/-- Slots keep their producers. The jobs of fetches keep theirs, and a new one has that of its slot
    and carries out a fetch that was reported as started. Fetches start only where there is a slot. -/
structure Retains (c c' : Cache α) : Prop where
  producer : ∀ k p, c'.producer? k = some p → c.producer? k = some p
  reported : starts c.journal ⊆ starts c'.journal
  begun : ∀ f ∈ starts c'.journal, f ∈ starts c.journal ∨ ∃ p, c.producer? f.1 = some p
  orders : ∀ j ∈ c'.agenda, ∀ x, j.order? = some x → (∃ i ∈ c.agenda, i.order? = some x) ∨
    x.1 ∈ starts c'.journal ∧ c.producer? x.1.1 = some x.2

namespace Retains

theorem refl (c : Cache α) : Retains c c :=
  ⟨fun _ _ h => h, fun _ h => h, fun _ h => .inl h, fun j hj _ order => .inl ⟨j, hj, order⟩⟩

theorem trans (h : Retains c c') (h' : Retains c' c'') : Retains c c'' := by
  refine ⟨fun k p hp => h.producer k p (h'.producer k p hp), fun f hf => h'.reported (h.reported hf),
    fun f hf => ?_, fun j hj x order => ?_⟩
  · rcases h'.begun f hf with hf | ⟨p, keeps⟩
    · exact h.begun f hf
    · exact .inr ⟨p, h.producer _ _ keeps⟩
  · rcases h'.orders j hj x order with ⟨i, hi, order⟩ | ⟨started, keeps⟩
    · exact (h.orders i hi x order).imp_right fun ⟨started, keeps⟩ => ⟨h'.reported started, keeps⟩
    · exact .inr ⟨started, h.producer _ _ keeps⟩

/-- Nothing is reported, slots keep their producers, and jobs that are new carry out no fetch. -/
theorem silent (producer : ∀ k p, c'.producer? k = some p → c.producer? k = some p)
    (journal : starts c'.journal = starts c.journal)
    (orders : ∀ j ∈ c'.agenda, ∀ x, j.order? = some x → ∃ i ∈ c.agenda, i.order? = some x) :
    Retains c c' :=
  ⟨producer, fun _ hf => journal ▸ hf, fun _ hf => .inl (journal ▸ hf),
    fun j hj x order => .inl (orders j hj x order)⟩

/-- Only the agenda changes, and nothing of the fetches on it. -/
theorem of_agenda (slots : c'.slots = c.slots) (journal : starts c'.journal = starts c.journal)
    (orders : ∀ j ∈ c'.agenda, ∀ x, j.order? = some x → ∃ i ∈ c.agenda, i.order? = some x) :
    Retains c c' :=
  silent (fun k p hp => by rwa [producer?, slots] at hp) journal orders

/-- The agenda stays as it is. -/
theorem of_slots (producer : ∀ k p, c'.producer? k = some p → c.producer? k = some p)
    (journal : starts c'.journal = starts c.journal) (agenda : c'.agenda = c.agenda) :
    Retains c c' :=
  silent producer journal fun j hj _ order => ⟨j, agenda ▸ hj, order⟩

/-- Only something is reported or counted. -/
theorem of_same (slots : c'.slots = c.slots) (journal : starts c'.journal = starts c.journal)
    (agenda : c'.agenda = c.agenda) : Retains c c' :=
  of_slots (fun k p hp => by rwa [producer?, slots] at hp) journal agenda

end Retains

/-- A slot is changed in other things than its producer. -/
theorem retains_slot (there : c.slots.find? k = some s)
    (slots : ∀ l, c'.slots.find? l = if l = k then some s' else c.slots.find? l)
    (same : s'.producer = s.producer) (journal : starts c'.journal = starts c.journal)
    (agenda : c'.agenda = c.agenda) : Retains c c' := by
  refine .of_slots (fun l p hp => ?_) journal agenda
  unfold producer? at hp ⊢
  rw [slots] at hp
  split at hp
  · rename_i hl
    rwa [hl, there, Option.map_some, ← same]
  · exact hp

/-- To give a job up leaves no fetch on the agenda that was not there. -/
theorem order_abort? {n : Option Nat} {j : Job} (hj : j ∈ (c.abort? now n).agenda)
    (order : j.order? = some x) : j ∈ c.agenda := by
  cases n with
  | none => exact hj
  | some n =>
    rw [abort?] at hj
    rcases agenda_abort now n c with rest | ⟨i, -, -, producer, call, rest⟩
    · rw [rest] at hj
      exact (Agenda.mem_remove.mp hj).1
    · rw [rest] at hj
      rcases List.mem_append.mp hj with hj | hj
      · exact (Agenda.mem_remove.mp hj).1
      · obtain rfl := List.mem_singleton.mp hj
        cases order

theorem retains_abort? (n : Option Nat) : Retains c (c.abort? now n) :=
  .of_agenda (by rw [abort?_eq]) (by rw [abort?_eq]) fun j hj _ order => ⟨j, order_abort? hj order, order⟩

theorem retains_spawn {duty : Duty} {due : Nat} (other : duty.post? ≠ none)
    (plain : ∀ g, duty.post? ≠ some (.fetch g)) : Retains c (c.spawn now k duty due) := by
  refine .of_agenda rfl rfl fun j hj x order => ?_
  rcases List.mem_append.mp hj with hj | hj
  · exact ⟨j, hj, order⟩
  · obtain rfl := List.mem_singleton.mp hj
    cases duty with
    | call g producer => exact (plain g rfl).elim
    | reply g producer call => exact (plain g rfl).elim
    | _ => exact nomatch order

theorem retains_without (j : Job) : Retains c (c.without j) :=
  .of_agenda rfl rfl fun i hi _ order => ⟨i, (Agenda.mem_remove.mp hi).1, order⟩

/-- A fetch that starts takes the producer of its slot. -/
theorem retains_launch (there : c.slots.find? k = some s) : Retains c (c.launch now k s) := by
  have slot : Retains c { c with slots := (c.launch now k s).slots } :=
    retains_slot there (find?_setSlot _ _ · _) rfl rfl rfl
  have own : c.producer? k = some s.producer := by
    rw [producer?, there]
    rfl
  refine ⟨slot.producer, fun f hf => List.mem_cons_of_mem _ hf, fun f hf => ?_, fun j hj x order => ?_⟩
  · rcases List.mem_cons.mp hf with rfl | hf
    · exact .inr ⟨_, own⟩
    · exact .inl hf
  · rcases List.mem_append.mp hj with hj | hj
    · exact .inl ⟨j, hj, order⟩
    · obtain rfl := List.mem_singleton.mp hj
      obtain rfl := Option.some.inj order
      exact .inr ⟨List.mem_cons_self .., own⟩

theorem retains_startFetch {supersede : Bool} : Retains c (c.startFetch now k supersede).1 := by
  cases hs : c.slots.find? k with
  | none =>
    rw [startFetch_vacant hs]
    exact .refl c
  | some s =>
    cases hf : s.inFlight with
    | none =>
      rw [startFetch_idle hs hf]
      exact retains_launch hs
    | some f =>
      cases supersede with
      | false =>
        rw [startFetch_joined hs hf]
        exact .refl c
      | true =>
        rw [startFetch_superseding hs hf]
        have aborted : Retains c (c.abort now f.job) := retains_abort? (some f.job)
        have there : (c.abort now f.job).slots.find? k = some s := by
          rw [abort_eq]
          exact hs
        have told : Retains (c.abort now f.job)
            ((c.abort now f.job).report (.superseding k f.generation)) := .of_same rfl rfl rfl
        exact (aborted.trans told).trans (retains_launch (c := (c.abort now f.job).report _) there)

theorem retains_reschedule : Retains c (c.reschedule now k) := by
  cases hs : c.slots.find? k with
  | none =>
    rw [reschedule_vacant hs]
    exact .refl c
  | some s =>
    have stopped : Retains c (c.stopTimer now k s.timer) := by
      cases s.timer with
      | none => exact .refl c
      | some timer => exact (retains_abort? (some timer.job)).trans (.of_same rfl rfl rfl)
    have there : (c.stopTimer now k s.timer).slots.find? k = some s := by
      rw [slots_stopTimer]
      exact hs
    rw [reschedule_eq hs]
    split
    · exact .refl c
    · cases s.period? with
      | none => exact stopped.trans (retains_slot there (find?_setSlot _ _ · _) rfl rfl rfl)
      | some period =>
        have spawned : Retains _ ((c.stopTimer now k s.timer).spawn now k (.poll period)
            (now.elapsed + period)) := retains_spawn nofun nofun
        exact (stopped.trans spawned).trans
          (retains_slot there (find?_setSlot _ _ · _) rfl rfl rfl)

theorem retains_evict : Retains c (c.evict k) := by
  refine .of_slots (fun l p hp => ?_) rfl rfl
  have slots : (c.evict k).slots.find? l = if l = k then none else c.slots.find? l :=
    Table.find?_erase c.slots k l
  unfold producer? at hp ⊢
  rw [slots] at hp
  split at hp
  · exact nomatch hp
  · exact hp

theorem retains_collect {token : Nat} : Retains c (c.collect k token) := by
  unfold collect
  split
  · exact .refl c
  · split
    · exact retains_evict
    · exact .refl c

theorem retains_settle {g : Nat} {result : Except String α} :
    Retains c (c.settle now k g result) := by
  unfold settle
  split
  · exact .refl c
  · cases hs : c.slots.find? k with
    | none =>
      rw [commit_vacant hs]
      exact .of_same rfl rfl rfl
    | some s =>
      by_cases current : s.inFlight.map Flight.generation = some g
      · obtain ⟨f, flying, rfl⟩ := Option.map_eq_some_iff.mp current
        rw [commit_current hs flying]
        cases result with
        | ok a => exact retains_slot hs (find?_setSlot _ _ · _) rfl rfl rfl
        | error message => exact retains_slot hs (find?_setSlot _ _ · _) rfl rfl rfl
      · rw [commit_overtaken hs current]
        exact .of_same rfl rfl rfl

theorem retains_scheduledFetch : Retains c (c.scheduledFetch now k) := by
  have fetched : Retains c (c.startFetch now k false).1 := retains_startFetch
  unfold scheduledFetch
  dsimp only
  split
  · exact fetched
  · exact fetched.trans (.of_same rfl rfl rfl)

theorem retains_tick {j : Job} {period : Nat} (duty : j.duty = .poll period) :
    Retains c (c.tick now j period) := by
  have again (n : Nat) (c : Cache α) : Retains c (repeated (scheduledFetch now j.key) n c) := by
    induction n generalizing c with
    | zero => exact .refl c
    | succ n ih => exact retains_scheduledFetch.trans (ih _)
  have moved (due : Nat) : Retains c { c with
      agenda := c.agenda.remove j.number ++ [{ j with due := some due, turn := now.turn }] } := by
    refine .of_agenda rfl rfl fun i hi x order => ?_
    rcases List.mem_append.mp hi with hi | hi
    · exact ⟨i, (Agenda.mem_remove.mp hi).1, order⟩
    · obtain rfl := List.mem_singleton.mp hi
      rw [Job.order?, show Job.duty _ = .poll period from duty] at order
      exact nomatch order
  exact (moved _).trans (again _ _)

theorem retains_place {j : Job} {g call : Nat} {due : Option Nat} (listed : j ∈ c.agenda)
    (duty : j.duty = .call g p) (inv : c.agenda.Numbered c.begun) :
    Retains c { c with
      agenda := c.agenda.change j.number (fun j => { j with duty := .reply g p call, due }) } := by
  refine .of_agenda rfl rfl fun i hi x order => ?_
  obtain ⟨i, hi', rfl⟩ := List.mem_map.mp hi
  split at order
  · rename_i same
    obtain rfl := inv.job hi' listed same
    exact ⟨i, hi', by rw [← order, Job.order?, duty]; rfl⟩
  · exact ⟨i, hi', order⟩

theorem retains_runJob {σ : Type} {supplier : Supplier σ α} {state : σ} {j : Job}
    (listed : j ∈ c.agenda) (inv : c.agenda.Numbered c.begun) :
    Retains c (c.runJob supplier now j state).1 := by
  unfold runJob
  cases duty : j.duty with
  | call g producer => exact retains_place listed duty inv
  | reply g producer call => exact (retains_without j).trans retains_settle
  | release producer call => exact retains_without j
  | poll period => exact retains_tick duty
  | collect token => exact (retains_without j).trans retains_collect

theorem retains_unsubscribe {h : Handle} : Retains c (c.unsubscribe now h) := by
  rcases unsubscribe_cases c h with ⟨s, there, member⟩ | stranger
  · have fewer : Retains c (c.numbered.setSlot h.key { s with
        subscribers := s.staying h.subscriber }) :=
      retains_slot there (find?_setSlot _ _ · _) rfl rfl rfl
    have left : Retains c (c.left now h s) := fewer.trans retains_reschedule
    rw [unsubscribe_member there member]
    split
    · refine left.trans ?_
      unfold abandonEntry
      split
      · exact retains_evict
      · split
        · exact .refl _
        · rename_i s' there'
          have spawned : Retains _ ((c.left now h s).spawn now h.key (.collect c.nextNumber)
              (now.elapsed + (c.left now h s).grace)) := retains_spawn nofun nofun
          exact spawned.trans (retains_slot there' (find?_setSlot _ _ · _) rfl rfl rfl)
    · exact left
  · rw [unsubscribe_stranger stranger]
    exact .of_same rfl rfl rfl

theorem retains_refetch (done : c.refetch now k = .ok c') : Retains c c' := by
  unfold refetch at done
  split at done
  · obtain rfl := Except.ok.inj done
    exact retains_startFetch
  · exact nomatch done

theorem retains_invalidate : Retains c (c.invalidate now k).1 := by
  unfold invalidate
  cases hs : c.slots.find? k with
  | none => exact .refl c
  | some s =>
    have marked : Retains c ((c.setSlot k { s with invalidated := true }).report
        (.invalidated k (!s.subscribers.isEmpty))) :=
      retains_slot hs (find?_setSlot _ _ · _) rfl rfl rfl
    dsimp only
    split
    · exact marked.trans retains_startFetch
    · exact marked

theorem retains_dropEntries : Retains c (c.dropEntries now) := by
  have aborted (slots : List (Slot α)) (c : Cache α) :
      Retains c (slots.foldl (fun c s => c.abortAll now s) c) := by
    induction slots generalizing c with
    | nil => exact .refl c
    | cons s rest ih =>
      have first : Retains c (c.abortAll now s) :=
        ((retains_abort? _).trans (retains_abort? _)).trans (retains_abort? _)
      exact first.trans (ih _)
  exact (aborted _ c).trans (.of_slots (fun _ _ hp => nomatch hp) rfl rfl)

theorem retains_answered {waits : Job → Bool} :
    Retains c { c with agenda := Agenda.answered now waits c.agenda } := by
  refine .of_agenda rfl rfl fun j hj x order => ?_
  obtain ⟨i, hi, rfl⟩ := mem_answered.mp hj
  refine ⟨i, hi, ?_⟩
  split at order
  · exact order
  · exact order

/-! ### Who brings a producer along -/

/-- Slots have the producer that the deed brings along for their query, or else the one that they had.
    No fetch is started, and the jobs of fetches are those from before. -/
structure Hires (deed : Deed α) (c c' : Cache α) : Prop where
  idles : c.Idles c'
  producer : ∀ l p, c'.producer? l = some p →
    deed.brings? l = some p ∨ deed.brings? l = none ∧ c.producer? l = some p
  orders : ∀ j ∈ c'.agenda, ∀ x, j.order? = some x → j ∈ c.agenda

theorem Hires.nobody {deed : Deed α} (nobody : ∀ l, deed.brings? l = none) (c : Cache α) :
    Hires deed c c :=
  ⟨fun _ hf => hf, fun l _ hp => .inr ⟨nobody l, hp⟩, fun _ hj _ _ => hj⟩

/-- Whoever subscribes has the slot of the query given a producer. -/
theorem hires_slot {o : Options} {b : Cache α}
    (slots : ∀ l, b.slots.find? l = if l = k then some s' else c.slots.find? l)
    (brought : s'.producer = p) (idles : c.Idles b)
    (orders : ∀ j ∈ b.agenda, ∀ x, j.order? = some x → j ∈ c.agenda) :
    Hires (.subscribe k p o) c b := by
  refine ⟨idles, fun l q hq => ?_, orders⟩
  rw [producer?, slots] at hq
  split at hq
  · rename_i hl
    rw [Option.map_some, brought] at hq
    exact .inl ((if_pos hl.symm).trans hq)
  · rename_i hl
    exact .inr ⟨if_neg (Ne.symm hl), hq⟩

theorem retains_served {o : Options} :
    Retains (c.joined now k s p o) (c.served now k s p o) := by
  have counted (f : Stats → Stats) : Retains (c.joined now k s p o) ((c.joined now k s p o).count f) :=
    .of_same rfl rfl rfl
  unfold served
  dsimp only
  split
  · exact .of_same rfl rfl rfl
  · split
    · exact counted _
    · split <;> exact (counted _).trans retains_startFetch

/-- Whoever subscribes brings a producer along, and a fetch that is started then has it. -/
theorem subscribe_hires {o : Options} {h : Handle} (done : c.subscribe now k p o = .ok (c', h)) :
    ∃ b, Hires (.subscribe k p o) c b ∧ Retains b c' := by
  have valid := valid_of_subscribe done
  cases hs : c.slots.find? k with
  | none =>
    rw [subscribe_vacant valid hs, Except.ok.injEq, Prod.mk.injEq] at done
    obtain ⟨rfl, -⟩ := done
    have hired : Hires (.subscribe k p o) c (c.numbered.found k p o c.nextNumber) :=
      hires_slot (find?_setSlot _ _ · _) rfl (fun _ hf => hf) fun _ hj _ _ => hj
    exact ⟨_, hired, retains_startFetch.trans retains_reschedule⟩
  | some s =>
    rw [subscribe_there valid hs, Except.ok.injEq, Prod.mk.injEq] at done
    obtain ⟨rfl, -⟩ := done
    have hired : Hires (.subscribe k p o) c (c.joined now k s p o) := by
      rw [joined, abort?_eq]
      exact hires_slot (find?_setSlot _ _ · _) rfl (fun _ hf => hf) fun _ hj _ =>
        order_abort? (c := c.numbered) hj
    exact ⟨_, hired, retains_served.trans retains_reschedule⟩

/-! ### Who is served without a fetch -/

/-- To put a timer in line starts no fetch, and no job is begun that calls a producer. -/
theorem order_reschedule {j : Job} (hj : j ∈ (c.reschedule now k).agenda)
    (order : j.order? = some x) : j ∈ c.agenda := by
  cases hs : c.slots.find? k with
  | none => rwa [reschedule_vacant hs] at hj
  | some s =>
    have stopped (hj : j ∈ (c.stopTimer now k s.timer).agenda) : j ∈ c.agenda := by
      rw [agenda_stopTimer] at hj
      exact order_abort? hj order
    rw [reschedule_eq hs] at hj
    split at hj
    · exact hj
    · cases asked : s.period? with
      | none =>
        rw [asked] at hj
        exact stopped hj
      | some period =>
        rw [asked] at hj
        rcases List.mem_append.mp hj with hj | hj
        · exact stopped hj
        · obtain rfl := List.mem_singleton.mp hj
          exact nomatch order

/-- Whoever joins a fetch in flight, or is served what is fresh, has no fetch started, and no job is
    begun that calls a producer. -/
theorem subscribe_idle {o : Options} {h : Handle} (there : c.slots.find? k = some s)
    (content : s.inFlight.isSome ∨ s.isFresh now o = true)
    (done : c.subscribe now k p o = .ok (c', h)) :
    c.Idles c' ∧ ∀ j ∈ c'.agenda, ∀ x, j.order? = some x → j ∈ c.agenda := by
  rw [subscribe_there (valid_of_subscribe done) there, Except.ok.injEq, Prod.mk.injEq] at done
  obtain ⟨rfl, -⟩ := done
  have served : (c.joined now k s p o).Idles (c.served now k s p o) ∧
      (c.served now k s p o).agenda = (c.joined now k s p o).agenda := by
    unfold served
    dsimp only
    split
    · exact ⟨fun _ hf => hf, rfl⟩
    · rename_i grounded
      rw [if_pos (content.resolve_left grounded)]
      exact ⟨fun _ hf => hf, rfl⟩
  refine ⟨fun f hf => ?_, fun j hj x order => ?_⟩
  · have joined : f ∈ starts (c.joined now k s p o).journal := served.1 f (idles_reschedule f hf)
    rwa [Cache.joined, abort?_eq] at joined
  · have joined : j ∈ (c.joined now k s p o).agenda := served.2 ▸ order_reschedule hj order
    exact order_abort? (c := c.numbered) joined order

/-! ### What the book tells -/

namespace Course

variable {w w' : Course α} {n : Note α}

/-- What a note tells of producers: of those of slots and jobs as the note leaves the cache, and of a
    call. -/
structure Orders (w : Course α) (n : Note α) (c : Cache α) : Prop where
  hires : ∃ b, Hires n.deed w.cache b ∧ Retains b { c with journal := n.events }
  calls : ∀ x, n.deed.call? = some x → ∃ j ∈ w.cache.agenda, j.order? = some x

/-- A step that books nothing leaves producers alone. -/
theorem Step.orders (step : Step w w') (hw : w.Reachable) :
    (w'.past = w.past ∧ Retains w.cache w'.cache) ∨
      ∃ n, w'.past = n :: w.past ∧ w.Orders n w'.cache := by
  have noted {deed : Deed α} {c : Cache α} (retains : Retains w.cache c)
      (nobody : ∀ k, deed.brings? k = none)
      (calls : ∀ x, deed.call? = some x → ∃ j ∈ w.cache.agenda, j.order? = some x) :
      ∃ n, (w.after deed c).past = n :: w.past ∧ w.Orders n { c with journal := [] } :=
    ⟨_, rfl, ⟨w.cache, .nobody nobody w.cache, retains⟩, calls⟩
  cases step with
  | subscribe k producer o alive done =>
    exact .inr ⟨_, rfl, subscribe_hires done, nofun⟩
  | @unsubscribe h i alive held =>
    have nobody : ∀ k, (Deed.unsubscribe h : Deed α).brings? k = none := fun _ => rfl
    exact .inr (noted retains_unsubscribe nobody nofun)
  | refetch k alive done => exact .inr (noted (retains_refetch done) (fun _ => rfl) nofun)
  | invalidate k alive => exact .inr (noted retains_invalidate (fun _ => rfl) nofun)
  | clear alive =>
    have cleared : Retains w.cache (w.cache.clear w.now) :=
      retains_dropEntries.trans (.of_same rfl rfl rfl)
    exact .inr (noted cleared (fun _ => rfl) nofun)
  | abandon =>
    have abandoned : Retains w.cache (w.cache.abandon w.now) :=
      retains_dropEntries.trans (.of_same rfl rfl rfl)
    exact .inr (noted abandoned (fun _ => rfl) nofun)
  | @run σ supplier state j listed due =>
    refine .inr (noted (retains_runJob listed hw.staffed.numbered) (fun _ => rfl) fun x call => ?_)
    refine ⟨j, listed, ?_⟩
    cases answer : supplier.answer? j state with
    | none => rwa [answer] at call
    | some a => rw [answer] at call; exact nomatch call
  | straggle k g answer started given_up unsettled =>
    exact .inr (noted retains_settle (fun _ => rfl) nofun)
  | answer waits calls => exact .inl ⟨rfl, retains_answered⟩
  | pass now later => exact .inl ⟨rfl, .refl _⟩
  | look i held => exact .inl ⟨rfl, .refl _⟩
  | forget i gone => exact .inl ⟨rfl, .refl _⟩

/-- Slots and jobs have the producers that the book tells, and so had the jobs that called. -/
structure Hired (w : Course α) : Prop where
  slots : ∀ k p, w.cache.producer? k = some p → latestProducer k w.past = some p
  jobs : ∀ j ∈ w.cache.agenda, ∀ x, j.order? = some x → Meant w.past x
  calls : ∀ n older, n :: older <:+ w.past → ∀ x, n.deed.call? = some x → Meant older x
  starts : ∀ n older, n :: older <:+ w.past → ∀ f ∈ Cache.starts n.events,
    ∃ p, latestProducer f.1 (n :: older) = some p

theorem Hired.step (inv : w.Hired) (hw : w.Reachable) (step : Step w w') : w'.Hired := by
  rcases step.orders hw with ⟨past, retains⟩ | ⟨n, past, ⟨b, hires, retains⟩, called⟩
  · refine ⟨fun k p hp => ?_, fun j hj x order => ?_, past ▸ inv.calls, past ▸ inv.starts⟩
    · exact past ▸ inv.slots k p (retains.producer k p hp)
    · rw [past]
      rcases retains.orders j hj x order with ⟨i, hi, order⟩ | ⟨started, -⟩
      · exact inv.jobs i hi x order
      · rw [show w'.cache.journal = [] from (hw.leads (.single step)).booked] at started
        exact (List.not_mem_nil started).elim
  · have slots (k : Key) (p : Nat) (hp : b.producer? k = some p) :
        latestProducer k w'.past = some p := by
      rw [past]
      rcases hires.producer k p hp with brought | ⟨nobody, kept⟩
      · exact latestProducer_cons_of_some brought
      · rw [latestProducer_cons_of_none nobody]
        exact inv.slots k p kept
    have earlier : w.past <:+ w'.past := past ▸ List.suffix_cons n w.past
    refine ⟨fun k p hp => slots k p (retains.producer k p hp), fun j hj x order => ?_,
      fun m older booked x call => ?_, fun m older booked f begun => ?_⟩
    · rcases retains.orders j hj x order with ⟨i, hi, order⟩ | ⟨started, kept⟩
      · exact (inv.jobs i (hires.orders i hi x order) x order).later earlier
      · exact ⟨n, w.past, past ▸ List.suffix_rfl, started, past ▸ slots _ _ kept⟩
    · rw [past] at booked
      rcases List.suffix_cons_iff.mp booked with same | booked
      · obtain ⟨rfl, rfl⟩ := List.cons.inj same
        obtain ⟨j, hj, order⟩ := called x call
        exact inv.jobs j hj x order
      · exact inv.calls m older booked x call
    · rw [past] at booked
      rcases List.suffix_cons_iff.mp booked with same | booked
      · obtain ⟨rfl, rfl⟩ := List.cons.inj same
        rcases retains.begun f begun with before | ⟨p, kept⟩
        · have early := hires.idles f before
          rw [show w.cache.journal = [] from hw.booked] at early
          exact (List.not_mem_nil early).elim
        · exact ⟨p, past ▸ slots _ _ kept⟩
      · exact inv.starts m older booked f begun

theorem Reachable.hired (hw : w.Reachable) : w.Hired := by
  obtain ⟨grace, now, h⟩ := hw
  induction h with
  | refl =>
    exact ⟨nofun, fun j hj => (List.not_mem_nil hj).elim,
      fun _ _ booked => (List.cons_ne_nil _ _ (List.suffix_nil.mp booked)).elim,
      fun _ _ booked => (List.cons_ne_nil _ _ (List.suffix_nil.mp booked)).elim⟩
  | tail before step ih => exact ih.step ⟨grace, now, before⟩ step

/-- A fetch is started only on occasion of a deed that concerns its query. -/
theorem Reachable.occasion (hw : w.Reachable) :
    ∀ n ∈ w.past, ∀ f ∈ Cache.starts n.events, n.deed.Occasion f.1 := by
  obtain ⟨grace, now, h⟩ := hw
  induction h with
  | refl => exact fun n hn => (List.not_mem_nil hn).elim
  | @tail w w' before step ih =>
    have hw : w.Reachable := ⟨grace, now, before⟩
    rcases step.reports hw.booked with ⟨past, -, -⟩ | ⟨n, past, tells⟩
    · exact past ▸ ih
    · rw [past]
      refine List.forall_mem_cons.mpr ⟨fun f hf => ?_, ih⟩
      obtain ⟨e, reported, begun⟩ := List.mem_filterMap.mp hf
      cases e with
      | started k g =>
        obtain rfl := Option.some.inj begun
        exact (tells.started k g reported).occasion
      | _ => exact nomatch begun

/-- A fetch is started once. -/
theorem Reachable.started_once (hw : w.Reachable) {n m : Note α} {older older' : List (Note α)}
    {f : FetchId} (booked : n :: older <:+ w.past) (begun : f ∈ Cache.starts n.events)
    (booked' : m :: older' <:+ w.past) (begun' : f ∈ Cache.starts m.events) :
    n :: older = m :: older' := by
  have once := hw.starts_nodup
  -- Of two places in the book the later one has the other behind it.
  have apart {n m : Note α} {older older' : List (Note α)} (booked : n :: older <:+ w.past)
      (begun : f ∈ Cache.starts n.events) (begun' : f ∈ Cache.starts m.events)
      (behind : m :: older' <:+ older) : False := by
    obtain ⟨newer, whole⟩ := booked
    rw [starts, ← whole, List.flatMap_append, List.flatMap_cons] at once
    have once := (List.nodup_append.mp once).2.1
    refine (List.nodup_append.mp once).2.2 f begun f ?_ rfl
    exact List.mem_flatMap.mpr ⟨m, behind.subset (List.mem_cons_self ..), begun'⟩
  rcases List.suffix_or_suffix_of_suffix booked booked' with earlier | earlier
  · rcases List.suffix_cons_iff.mp earlier with same | behind
    · exact same
    · exact (apart booked' begun' begun behind).elim
  · rcases List.suffix_cons_iff.mp earlier with same | behind
    · exact same.symm
    · exact (apart booked begun begun' behind).elim

/-- Fetches call the producers that were the latest when they were started. -/
structure CallsLatest (w : Course α) : Prop where
  /-- Whatever fetch is started, it is on occasion of a deed that concerns its query, and somebody has
      subscribed to that. It calls the producer that was brought along last, and no other. -/
  started : ∀ n older, n :: older <:+ w.past → ∀ f ∈ Cache.starts n.events,
    n.deed.Occasion f.1 ∧ ∃ p, latestProducer f.1 (n :: older) = some p ∧
      (∀ q, (f, q) ∈ callsMade w.past → q = p) ∧
      (∀ q, ∀ j ∈ w.cache.agenda, j.Calls f q → q = p)
  /-- It does so once at most, and if it has not, it has still to do it or was given up before it
      could. -/
  called : ((callsMade w.past).map Prod.fst).Nodup ∧ ∀ f ∈ w.starts, (∃ p, (f, p) ∈ callsMade w.past) ∨
    (∃ p, ∃ j ∈ w.cache.agenda, j.Calls f p) ∨
      ∃ older, older <:+ w.past ∧ GivenUp older f ∧ ∀ p, (f, p) ∉ callsMade older
  /-- A job that is there to call a producer calls that one, once, when it runs: the one that was the
      latest when the fetch was started. Any other job calls none. -/
  runs : ∀ j ∈ w.cache.agenda, ∀ (σ : Type) (supplier : Supplier σ α) (state : σ),
    let seen := (w.cache.runJob supplier.watched w.now j (state, [])).2.2
    (∀ f p, j.Calls f p → seen = [p] ∧ Meant w.past (f, p)) ∧ ((∀ f p, ¬ j.Calls f p) → seen = [])
  /-- On whatever way the course was come to, the calls that its suppliers saw were those that the book
      says were made. -/
  placed : (∃ calls, w.Placed calls) ∧
    ∀ calls, w.Placed calls → calls = (callsMade w.past).map (fun x => (some x.1, x.2))
  /-- For whoever joins a fetch in flight, or is served what is fresh, no fetch is started and no job is
      begun that calls a producer. -/
  idle : ∀ k p o c h s, w.cache.subscribe w.now k p o = .ok (c, h) →
    w.cache.slots.find? k = some s → s.inFlight.isSome ∨ s.isFresh w.now o = true →
      Cache.starts c.journal = [] ∧ ∀ j ∈ c.agenda, ∀ f q, j.Calls f q → j ∈ w.cache.agenda

theorem mem_called {past : List (Note α)} {f : FetchId} :
    f ∈ Cache.called past ↔ ∃ p, (f, p) ∈ callsMade past := by
  rw [← map_fst_callsMade, List.mem_map]
  constructor
  · rintro ⟨⟨f, p⟩, made, rfl⟩
    exact ⟨p, made⟩
  · rintro ⟨p, made⟩
    exact ⟨(f, p), made, rfl⟩

theorem order_of_calls {j : Job} {f : FetchId} {p : Nat} (h : j.Calls f p) :
    j.order? = some (f, p) := by
  obtain ⟨own, duty⟩ := h
  rw [Job.order?, duty, own]

/-- What was called for a fetch is meant by the book. -/
theorem Reachable.meant_of_calls (hw : w.Reachable) {x : FetchId × Nat} (made : x ∈ callsMade w.past) :
    Meant w.past x := by
  obtain ⟨n, booked, call⟩ := List.mem_filterMap.mp made
  obtain ⟨newer, older, whole⟩ := List.append_of_mem booked
  have earlier : n :: older <:+ w.past := ⟨newer, whole.symm⟩
  exact (hw.hired.calls n older earlier x call).later ((List.suffix_cons n older).trans earlier)

end Course

/-- In every reachable course each fetch calls the producer that was brought along by whoever was the last
    to subscribe to its query before it was started, and it does so once at most. Whoever left since
    changes nothing of that, and nobody who brings another producer. For whoever joins a fetch in
    flight, or is served what is fresh, no call is prepared. The calls are those that whoever supplies the
    data gets. -/
theorem fetches_call_latest_producer {w : Course α} (hw : w.Reachable) : w.CallsLatest := by
  have hired := hw.hired
  constructor
  case started =>
    intro n older booked f begun
    obtain ⟨p, latest⟩ := hired.starts n older booked f begun
    have only {q : Nat} (meant : Meant w.past (f, q)) : q = p := by
      obtain ⟨m, older', booked', begun', latest'⟩ := meant
      rw [← hw.started_once booked begun booked' begun', latest] at latest'
      exact (Option.some.inj latest').symm
    refine ⟨hw.occasion n (booked.subset (List.mem_cons_self ..)) f begun, p, latest,
      fun q made => only (hw.meant_of_calls made), fun q j hj calls => ?_⟩
    exact only (hired.jobs j hj _ (Course.order_of_calls calls))
  case called =>
    refine ⟨map_fst_callsMade w.past ▸ hw.told.calledOnce, fun f started => ?_⟩
    by_cases called : f ∈ called w.past
    · exact .inl (Course.mem_called.mp called)
    · refine .inr (((hw.uncalled_iff started).mp called).imp (fun waits => ?_) ?_)
      · obtain ⟨j, hj, own, p, duty⟩ := Course.mem_underway_waiting.mp waits
        exact ⟨p, j, hj, own, duty⟩
      · rintro ⟨older, earlier, given, uncalled⟩
        exact ⟨older, earlier, given, fun p made => uncalled (Course.mem_called.mpr ⟨p, made⟩)⟩
  case runs =>
    intro j hj σ supplier state
    rw [runJob_watched, List.append_nil]
    refine ⟨fun f p calls => ⟨?_, hired.jobs j hj _ (Course.order_of_calls calls)⟩, fun idle => ?_⟩
    · rw [Job.callee?_of_calls calls]
      rfl
    · rw [Job.callee?_of_idle idle]
      rfl
  case placed => exact ⟨hw.placed, fun calls placed => placed.calls_eq⟩
  case idle =>
    intro k p o c h s done there content
    obtain ⟨idles, jobs⟩ := subscribe_idle there content done
    refine ⟨List.eq_nil_iff_forall_not_mem.mpr fun f hf => ?_, fun j hj f q calls => ?_⟩
    · have early := idles f hf
      rw [show w.cache.journal = [] from hw.booked] at early
      exact List.not_mem_nil early
    · exact jobs j hj _ (Course.order_of_calls calls)

/-- The first fetch calls the producer of the first subscriber, though another has brought one and the
    first has left before it runs. The second calls the one of the other, who has left as well. -/
theorem producer_kept_from_start :
    let k : Key := .single "tasks"
    let w : Course Nat := .played 300 [.subscribe k 0 {}, .subscribe k 1 {}, .unsubscribe 0,
      .run 1 0 (.ok 7), .run 1 0 (.ok 7), .unsubscribe 1, .refetch k, .run 3 0 (.ok 8)]
    w.Reachable ∧ callsMade w.past = [((k, 6), 1), ((k, 2), 0)] ∧
      w.Placed [(some (k, 6), 1), (some (k, 2), 0)] ∧ w.CallsLatest := by
  intro k w
  have hw : w.Reachable := Course.reachable_played 300 _
  have latest := fetches_call_latest_producer hw
  have made : callsMade w.past = [((k, 6), 1), ((k, 2), 0)] := by decide +kernel
  obtain ⟨⟨calls, placed⟩, same⟩ := latest.placed
  have placed : w.Placed ((callsMade w.past).map (fun x => (some x.1, x.2))) := same calls placed ▸ placed
  rw [made] at placed
  exact ⟨hw, made, placed, latest⟩

end TaskWatch.Cache
