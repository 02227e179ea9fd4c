import TaskWatch.Proofs.Cache.Tended

/-! What a cache reports of its work.

    Whatever is done to a cache shows in what it reports: `Reports` says for which queries fetches were
    started, for which the entry was evicted, and that evictions are counted as they are reported. Each
    operation has one lemma. From these, `Course.Step.reports` tells which deeds can start a fetch of
    a query, and which evict its entry. -/

namespace TaskWatch.Cache

variable {α : Type} {now : Time.Instant} {k : Key} {c c' c'' : Cache α} {s : Slot α}
  {starts evicts : Key → Prop}

/-- The entry of a query was evicted. -/
def Event.isEvicted : Event → Bool
  | .evicted _ => true
  | _ => false

theorem Event.isEvicted_iff {e : Event} : e.isEvicted = true ↔ ∃ k, e = .evicted k := by
  cases e <;> simp [isEvicted]

/-- Fetches were started for such queries only, and entries evicted for such queries only. As many
    evictions were counted as were reported. The grace period is what it was. -/
def Reports (starts evicts : Key → Prop) (c c' : Cache α) : Prop :=
  ∃ events, c'.journal = events ++ c.journal ∧
    (∀ k g, Event.started k g ∈ events → starts k) ∧ (∀ k, Event.evicted k ∈ events → evicts k) ∧
    c'.stats.evictions = c.stats.evictions + events.countP Event.isEvicted ∧ c'.grace = c.grace

namespace Reports

/-- Nothing was reported or evicted. -/
theorem silent (journal : c'.journal = c.journal)
    (stats : c'.stats.evictions = c.stats.evictions) (grace : c'.grace = c.grace) :
    Reports starts evicts c c' :=
  ⟨[], journal, by simp, by simp, stats, grace⟩

theorem refl (c : Cache α) : Reports starts evicts c c := silent rfl rfl rfl

theorem trans (h : Reports starts evicts c c') (h' : Reports starts evicts c' c'') :
    Reports starts evicts c c'' := by
  obtain ⟨events, journal, started, evicted, counted, grace⟩ := h
  obtain ⟨events', journal', started', evicted', counted', grace'⟩ := h'
  refine ⟨events' ++ events, ?_, ?_, ?_, ?_, grace'.trans grace⟩
  · rw [journal', journal, List.append_assoc]
  · intro k g hg
    rcases List.mem_append.mp hg with hg | hg
    · exact started' k g hg
    · exact started k g hg
  · intro k hk
    rcases List.mem_append.mp hk with hk | hk
    · exact evicted' k hk
    · exact evicted k hk
  · rw [counted', counted, List.countP_append]
    omega

/-- The grace period never changes. -/
theorem grace (h : Reports starts evicts c c') : c'.grace = c.grace := by
  obtain ⟨events, -, -, -, -, grace⟩ := h
  exact grace

/-- An event is reported that tells of no start and no eviction. -/
theorem report (c : Cache α) {e : Event} (quiet : ∀ k g, e ≠ .started k g)
    (kept : e.isEvicted = false) : Reports starts evicts c (c.report e) := by
  refine ⟨[e], rfl, ?_, ?_, ?_, rfl⟩
  · intro k g hg
    exact (quiet k g (List.mem_singleton.mp hg).symm).elim
  · intro k hk
    obtain rfl := List.mem_singleton.mp hk
    exact nomatch kept
  · rw [List.countP_singleton, kept]
    rfl

end Reports

theorem reports_abort (n : Nat) : Reports starts evicts c (c.abort now n) := by
  rw [abort_eq]
  exact .silent rfl rfl rfl

theorem reports_launch (own : starts k) : Reports starts evicts c (c.launch now k s) := by
  refine ⟨[.started k c.nextNumber], rfl, ?_, by simp, rfl, rfl⟩
  intro l g hg
  obtain ⟨rfl, -⟩ := Event.started.inj (List.mem_singleton.mp hg)
  exact own

theorem reports_startFetch {supersede : Bool} (own : starts k) :
    Reports starts evicts c (c.startFetch now k supersede).1 := by
  cases hs : c.slots.find? k with
  | none =>
    rw [startFetch_vacant hs]
    exact .refl c
  | some s =>
    cases hf : s.inFlight with
    | none =>
      rw [startFetch_idle hs hf]
      exact reports_launch own
    | some f =>
      cases supersede with
      | false =>
        rw [startFetch_joined hs hf]
        exact .refl c
      | true =>
        rw [startFetch_superseding hs hf]
        have aborted : Reports starts evicts c (c.abort now f.job) := reports_abort f.job
        exact (aborted.trans (.report _ (by simp) rfl)).trans (reports_launch own)

theorem reports_reschedule : Reports starts evicts c (c.reschedule now k) := by
  cases hs : c.slots.find? k with
  | none =>
    rw [reschedule_vacant hs]
    exact .refl c
  | some s =>
    have stopped : Reports starts evicts c (c.stopTimer now k s.timer) := by
      cases s.timer with
      | none => exact .refl c
      | some timer => exact (reports_abort timer.job).trans (.report _ (by simp) rfl)
    rw [reschedule_eq hs]
    split
    · exact .refl c
    · cases s.period? with
      | none => exact stopped.trans (.silent rfl rfl rfl)
      | some period => exact (stopped.trans (.silent rfl rfl rfl)).trans (.report _ (by simp) rfl)

theorem reports_settle {g : Nat} {result : Except String α} :
    Reports starts evicts c (c.settle now k g result) := by
  unfold settle
  split
  · exact .refl c
  · cases hs : c.slots.find? k with
    | none =>
      rw [commit_vacant hs]
      exact .report c (by simp) rfl
    | some s =>
      by_cases current : s.inFlight.map Flight.generation = some g
      · obtain ⟨f, flying, rfl⟩ := Option.map_eq_some_iff.mp current
        rw [commit_current hs flying]
        cases result with
        | ok a => exact .trans (.silent rfl rfl rfl) (.report _ (by simp) rfl)
        | error message =>
          have failed : Reports starts evicts c ((c.count (fun t => { t with
              failures := t.failures + 1 })).report (.failed k f.generation message)) :=
            .trans (.silent rfl rfl rfl) (.report _ (by simp) rfl)
          exact failed.trans (.silent rfl rfl rfl)
      · rw [commit_overtaken hs current]
        exact .trans (.silent rfl rfl rfl) (.report _ (by simp) rfl)

theorem reports_evict (own : evicts k) : Reports starts evicts c (c.evict k) := by
  refine ⟨[.evicted k], rfl, by simp, ?_, rfl, rfl⟩
  intro l hl
  obtain rfl := Event.evicted.inj (List.mem_singleton.mp hl)
  exact own

theorem reports_abandonEntry {token : Nat} (own : c.grace = 0 → evicts k) :
    Reports starts evicts c (c.abandonEntry now k token) := by
  unfold abandonEntry
  split
  · rename_i hasty
    exact reports_evict (own hasty)
  · cases hs : c.slots.find? k with
    | none => exact .refl c
    | some s => exact .trans (.silent rfl rfl rfl) (.report _ (by simp) rfl)

theorem reports_collect {token : Nat}
    (own : ∀ s, c.slots.find? k = some s →
      s.subscribers.isEmpty && s.eviction.any (fun e => e.token == token) → evicts k) :
    Reports starts evicts c (c.collect k token) := by
  unfold collect
  cases hs : c.slots.find? k with
  | none => exact .refl c
  | some s =>
    dsimp only
    split
    · rename_i expired
      exact reports_evict (own s hs expired)
    · exact .refl c

theorem reports_scheduledFetch (own : starts k) :
    Reports starts evicts c (c.scheduledFetch now k) := by
  have fetched : Reports starts evicts c (c.startFetch now k false).1 := reports_startFetch own
  unfold scheduledFetch
  dsimp only
  split
  · exact fetched
  · exact fetched.trans (.report _ (by simp) rfl)

theorem reports_tick {j : Job} {period : Nat} (own : starts j.key) :
    Reports starts evicts c (c.tick now j period) := by
  have again (n : Nat) (c : Cache α) :
      Reports starts evicts c (repeated (scheduledFetch now j.key) n c) := by
    induction n generalizing c with
    | zero => exact .refl c
    | succ n ih => exact (reports_scheduledFetch own).trans (ih _)
  exact .trans (.silent rfl rfl rfl) (again _ _)

theorem reports_unsubscribe {h : Handle}
    (own : ∀ s, c.slots.find? h.key = some s →
      s.subscribers.any (fun p => p.1 == h.subscriber) = true → s.staying h.subscriber = [] →
      c.grace = 0 → evicts h.key) :
    Reports starts evicts c (c.unsubscribe now h) := by
  rcases unsubscribe_cases c h with ⟨s, there, member⟩ | stranger
  · have left : Reports starts evicts c (c.left now h s) :=
      .trans (.silent rfl rfl rfl) reports_reschedule
    rw [unsubscribe_member there member]
    split
    · rename_i nobody
      refine left.trans (reports_abandonEntry fun hasty => ?_)
      exact own s there member (List.isEmpty_iff.mp nobody) (left.grace.symm.trans hasty)
    · exact left
  · rw [unsubscribe_stranger stranger]
    exact .silent rfl rfl rfl

theorem reports_subscribe {producer : Nat} {o : Options} {h : Handle} (own : starts k)
    (done : c.subscribe now k producer o = .ok (c', h)) : Reports starts evicts c c' := by
  have valid := valid_of_subscribe done
  cases hs : c.slots.find? k with
  | none =>
    rw [subscribe_vacant valid hs, Except.ok.injEq, Prod.mk.injEq] at done
    obtain ⟨rfl, -⟩ := done
    have found : Reports starts evicts c (c.numbered.found k producer o c.nextNumber) :=
      .silent rfl rfl rfl
    exact (found.trans (reports_startFetch own)).trans reports_reschedule
  | some s =>
    rw [subscribe_there valid hs, Except.ok.injEq, Prod.mk.injEq] at done
    obtain ⟨rfl, -⟩ := done
    have joined : Reports starts evicts c (c.joined now k s producer o) := by
      rw [joined, abort?_eq]
      exact .silent rfl rfl rfl
    refine .trans ?_ reports_reschedule
    unfold served
    split
    · exact (joined.trans (.silent rfl rfl rfl)).trans (.report _ (by simp) rfl)
    · split
      · exact joined.trans (.silent rfl rfl rfl)
      · split <;> exact (joined.trans (.silent rfl rfl rfl)).trans (reports_startFetch own)

theorem reports_invalidate
    (own : ∀ s, c.slots.find? k = some s → s.subscribers ≠ [] → starts k) :
    Reports starts evicts c (c.invalidate now k).1 := by
  unfold invalidate
  cases hs : c.slots.find? k with
  | none => exact .refl c
  | some s =>
    have marked : Reports starts evicts c ((c.setSlot k { s with invalidated := true }).report
        (.invalidated k (!s.subscribers.isEmpty))) :=
      .trans (.silent rfl rfl rfl) (.report _ (by simp) rfl)
    dsimp only
    split
    · rename_i attended
      exact marked.trans (reports_startFetch (own s hs (by simpa using attended)))
    · exact marked

/-! ### What deeds start and evict -/

/-- The deed can start a fetch of the query. -/
inductive Deed.Starts (c : Cache α) (k : Key) : Deed α → Prop
  | subscribe (producer : Nat) (o : Options) : Starts c k (.subscribe k producer o)
  | refetch : Starts c k (.refetch k)
  /-- An entry is invalidated that has subscribers. -/
  | invalidate {s : Slot α} (there : c.slots.find? k = some s) (attended : s.subscribers ≠ []) :
      Starts c k (.invalidate k)
  /-- A timer ticks. -/
  | poll {j : Job} {period : Nat} {answer : Option (Except String α)} (listed : j ∈ c.agenda)
      (own : j.key = k) (duty : j.duty = .poll period) : Starts c k (.run j answer)

/-- The deed evicts the entry of the query. -/
inductive Deed.Evicts (c : Cache α) (k : Key) : Deed α → Prop
  /-- The last subscriber leaves, and there is no grace. -/
  | leave {s : Slot α} {h : Handle} (own : h.key = k) (there : c.slots.find? h.key = some s)
      (member : s.subscribers.any (fun p => p.1 == h.subscriber) = true)
      (last : s.staying h.subscriber = []) (hasty : c.grace = 0) : Evicts c k (.unsubscribe h)
  /-- The eviction that pends is run. -/
  | collect {s : Slot α} {e : Eviction} {j : Job} {answer : Option (Except String α)}
      (listed : j ∈ c.agenda) (own : j.key = k) (there : c.slots.find? j.key = some s)
      (lonely : s.subscribers = []) (pends : s.eviction = some e)
      (duty : j.duty = .collect e.token) : Evicts c k (.run j answer)

/-- Of all jobs only timers start fetches, and only pending evictions evict. -/
theorem reports_runJob {σ : Type} {supplier : Supplier σ α} {state : σ} {j : Job}
    (listed : j ∈ c.agenda) (answer : Option (Except String α)) :
    Reports (fun k => (Deed.run j answer).Starts c k) (fun k => (Deed.run j answer).Evicts c k) c
      (c.runJob supplier now j state).1 := by
  unfold runJob
  cases duty : j.duty with
  | call g producer => exact .silent rfl rfl rfl
  | reply g producer call => exact .trans (.silent rfl rfl rfl) reports_settle
  | release producer call => exact .silent rfl rfl rfl
  | poll period => exact reports_tick (.poll listed rfl duty)
  | collect token =>
    refine .trans (.silent rfl rfl rfl) (reports_collect fun s there expired => ?_)
    obtain ⟨nobody, same⟩ := Bool.and_eq_true_iff.mp expired
    obtain ⟨e, pends, rfl⟩ : ∃ e, s.eviction = some e ∧ e.token = token := by
      simpa [Option.any_eq_true] using same
    exact .collect listed rfl there (List.isEmpty_iff.mp nobody) pends duty

namespace Course

variable {w w' : Course α}

/-- The note tells which fetches were started and which entries evicted as the cache became what it
    is now. -/
structure Tells (w : Course α) (n : Note α) (c : Cache α) : Prop where
  moment : n.moment = w.now
  started : ∀ k g, Event.started k g ∈ n.events → n.deed.Starts w.cache k
  evicted : ∀ k, Event.evicted k ∈ n.events → n.deed.Evicts w.cache k
  counted : c.stats.evictions = w.cache.stats.evictions + n.events.countP Event.isEvicted
  grace : c.grace = w.cache.grace

/-- A step that leaves the cache alone books nothing; any other books what it started and evicted,
    and counts what it evicted. -/
theorem Step.reports (h : Step w w') (booked : w.Booked) :
    (w'.past = w.past ∧ w'.cache.stats = w.cache.stats ∧ w'.cache.grace = w.cache.grace) ∨
      ∃ n, w'.past = n :: w.past ∧ w.Tells n w'.cache := by
  have noted {deed : Deed α} {c : Cache α}
      (h : Reports (fun k => deed.Starts w.cache k) (fun k => deed.Evicts w.cache k) w.cache c) :
      ∃ n, (w.after deed c).past = n :: w.past ∧ w.Tells n { c with journal := [] } := by
    obtain ⟨events, journal, started, evicted, counted, grace⟩ := h
    rw [show w.cache.journal = [] from booked, List.append_nil] at journal
    subst journal
    exact ⟨_, rfl, rfl, started, evicted, counted, grace⟩
  cases h with
  | subscribe k producer o alive done =>
    exact .inr (noted (reports_subscribe (.subscribe producer o) done))
  | @unsubscribe h i alive held =>
    refine .inr (noted (reports_unsubscribe fun s there member last hasty => ?_))
    exact Deed.Evicts.leave rfl there member last hasty
  | refetch k alive done =>
    unfold Cache.refetch at done
    split at done
    · obtain rfl := Except.ok.inj done
      exact .inr (noted (reports_startFetch .refetch))
    · exact nomatch done
  | invalidate k alive =>
    exact .inr (noted (reports_invalidate fun s there attended => .invalidate there attended))
  | clear alive =>
    refine .inr (@noted .clear _ ?_)
    rw [Cache.clear, dropEntries_eq]
    exact .trans (.silent rfl rfl rfl) (.report _ (by simp) rfl)
  | abandon =>
    refine .inr (@noted .abandon _ ?_)
    rw [Cache.abandon, dropEntries_eq]
    exact .silent rfl rfl rfl
  | run supplier s listed due => exact .inr (noted (reports_runJob listed _))
  | straggle k g answer started given_up unsettled =>
    exact .inr (noted reports_settle)
  | answer waits calls => exact .inl ⟨rfl, rfl, rfl⟩
  | pass now later => exact .inl ⟨rfl, rfl, rfl⟩
  | look i held => exact .inl ⟨rfl, rfl, rfl⟩
  | forget i gone => exact .inl ⟨rfl, rfl, rfl⟩

end Course

end TaskWatch.Cache
