import TaskWatch.Proofs.Cache.Latest
import TaskWatch.Proofs.Cache.Staff

/-! Entries that are being fetched.

    An entry is marked as being fetched as long as its slot has a fetch in flight, and just as long
    one job on the agenda works for the entry. A job whose entry was evicted works for nobody: its
    fetch was started before any fetch of the entry that the query has now. So no entry is marked
    without a job that takes the mark off, whatever its producer answers. -/

namespace TaskWatch.Cache

variable {α : Type} {k : Key}

namespace History

/-- What is in flight was started for the entry that there is now. -/
theorem flight_in_life : ∀ {h : History α} {g : Nat}, flight? h = some g → g ∈ (life h).started
  | (_, .started _) :: _, _, hf => Option.some.inj hf ▸ List.mem_cons_self ..
  | (_, .invalidated) :: rest, _, hf => flight_in_life (h := rest) hf

/-- Whatever strayed was started before every fetch of the entry that there is now. -/
theorem evictedFlights_lt_life : ∀ {h : History α}, Orderly h →
    ∀ x ∈ evictedFlights h, ∀ g ∈ (life h).started, x < g
  | (_, .started _) :: rest, ho, x, hx, g, hg => by
    rcases List.mem_cons.mp hg with rfl | hg
    · exact ho.1 x (evictedFlights_subset_started ho.2 x hx)
    · exact evictedFlights_lt_life (h := rest) ho.2 x hx g hg
  | (_, .succeeded _ _) :: rest, ho, x, hx, g, hg =>
    evictedFlights_lt_life (h := rest) ho.2 x hx g hg
  | (_, .failed _ _) :: rest, ho, x, hx, g, hg =>
    evictedFlights_lt_life (h := rest) ho.2 x hx g hg
  | (_, .invalidated) :: rest, ho, x, hx, g, hg =>
    evictedFlights_lt_life (h := rest) ho x hx g hg
  | (_, .evicted) :: _, _, _, _, _, hg => nomatch hg
  | (_, .cleared) :: _, _, _, _, _, hg => nomatch hg

end History

/-! ### The mark on an entry -/

namespace Cell

variable {c c' : Cell α}

/-- The entry is marked as being fetched while a fetch is in flight. -/
def Marked (c : Cell α) : Prop := ∀ s, c.slot = some s → s.entry.fetching = s.inFlight.isSome

theorem Step.marked (h : Cell.Step k c c') (inv : c.Marked) : c'.Marked := by
  intro s' there'
  cases h with
  | pass later => exact inv s' there'
  | number more => exact inv s' there'
  | @adjust s producer subscribers timer eviction there =>
    obtain rfl := Option.some.inj there'
    exact inv s there
  | @mark s there =>
    obtain rfl := Option.some.inj there'
    exact inv s there
  | evict there lonely => exact nomatch there'
  | clear => exact nomatch there'
  -- A fetch that begins sets the mark, and one that ends takes it off.
  | _ =>
    obtain rfl := Option.some.inj there'
    rfl

theorem Leads.marked (h : Cell.Leads k c c') (inv : c.Marked) : c'.Marked := by
  induction h with
  | refl => exact inv
  | tail _ step ih => exact step.marked ih

end Cell

/-- Whatever a fetch comes to, its entry is not being fetched any more. -/
theorem enter_unmarked (now : Time.Instant) {g : Nat} {s : Slot α} (c : Cache α)
    (result : Except String α) :
    ∃ e, Cache.entry? (c.enter now k g s result) k = some e ∧ e.fetching = false := by
  cases result with
  | ok a => exact ⟨_, congrArg (Option.map _) (find?_setSlot_self c k _), rfl⟩
  | error message => exact ⟨_, congrArg (Option.map _) (find?_setSlot_self _ k _), rfl⟩

/-- The fetch in flight settles. -/
theorem commit_unmarked (now : Time.Instant) {g : Nat} {c : Cache α} (flying : c.Flying k g)
    (result : Except String α) :
    ∃ e, Cache.entry? (c.commit now k g result) k = some e ∧ e.fetching = false := by
  obtain ⟨s, f, there, flying, rfl⟩ := flying
  rw [commit_current there flying]
  exact enter_unmarked now c result

/-! ### The job that works for an entry -/

namespace Course

variable {w : Course α} {s : Slot α} {j : Job}

/-- The jobs at work on a fetch that was started for the entry which the query has now. -/
def fetchJobs (w : Course α) (k : Key) : List Job :=
  w.cache.agenda.filter (fun j =>
    j.key == k && j.generation?.any (fun g => (w.history k).life.started.contains g))

theorem mem_fetchJobs : j ∈ w.fetchJobs k ↔ j ∈ w.cache.agenda ∧ j.key = k ∧
    ∃ g, j.generation? = some g ∧ g ∈ (w.history k).life.started := by
  simp [fetchJobs, Option.any_eq_true]

theorem Reachable.marked (hw : w.Reachable) : (w.cell k).Marked := by
  obtain ⟨grace, now, h⟩ := hw
  exact (Leads.cell h rfl).marked fun s there => nomatch (fresh_vacant grace now k).symm.trans there

/-- A job that works for an entry is that of the fetch in flight. -/
theorem Reachable.flying_of_fetchJobs (hw : w.Reachable) (hj : j ∈ w.fetchJobs k) :
    ∃ s f, w.cache.slots.find? k = some s ∧ s.inFlight = some f ∧ f.job = j.number ∧
      j.generation? = some f.generation := by
  obtain ⟨listed, rfl, g, carries, living⟩ := mem_fetchJobs.mp hj
  have has : w.cache.agenda.Has j.key j.number (.fetch g) :=
    ⟨j, listed, rfl, rfl, Job.generation?_eq.mp carries⟩
  rcases hw.staffed.fetches _ _ _ has with strayed | ⟨s, there, h⟩
  · exact (Nat.lt_irrefl g (History.evictedFlights_lt_life hw.faithful.orderly g strayed g
      living)).elim
  · obtain ⟨f, flying, number, rfl⟩ := h.flying
    exact ⟨s, f, there, flying, number, carries⟩

/-- One job works for an entry while a fetch is in flight. -/
theorem Reachable.fetchJobs_flying (hw : w.Reachable) (there : w.cache.slots.find? k = some s)
    {f : Flight} (flying : s.inFlight = some f) :
    ∃ j, w.fetchJobs k = [j] ∧ j.generation? = some f.generation := by
  obtain ⟨j, listed, rfl, number, post⟩ := hw.staffed.named k s _ _ there (.flight flying)
  have carries := Job.generation?_eq.mpr post
  have living : f.generation ∈ (w.history j.key).life.started :=
    History.flight_in_life (hw.faithful.flying there flying)
  have working := mem_fetchJobs.mpr ⟨listed, rfl, _, carries, living⟩
  refine ⟨j, hw.staffed.numbered.filter_eq_singleton listed (List.mem_filter.mp working).2
    fun i hi fits => ?_, carries⟩
  obtain ⟨s', f', there', flying', number', -⟩ :=
    hw.flying_of_fetchJobs (List.mem_filter.mpr ⟨hi, fits⟩)
  obtain rfl := Option.some.inj (there.symm.trans there')
  obtain rfl := Option.some.inj (flying.symm.trans flying')
  exact number'.symm.trans number.symm

/-- No job works for an entry while no fetch is in flight. -/
theorem Reachable.fetchJobs_idle (hw : w.Reachable) (there : w.cache.slots.find? k = some s)
    (idle : s.inFlight = none) : w.fetchJobs k = [] := by
  refine List.eq_nil_iff_forall_not_mem.mpr fun j hj => ?_
  obtain ⟨s', f, there', flying, -, -⟩ := hw.flying_of_fetchJobs hj
  obtain rfl := Option.some.inj (there.symm.trans there')
  exact nomatch idle.symm.trans flying

/-- A job that works for an entry calls its producer and waits, or it takes the mark off. -/
theorem Reachable.run_fetchJob {σ : Type} (hw : w.Reachable) (hj : j ∈ w.fetchJobs k)
    (supplier : Supplier σ α) (state : σ) :
    let c := (w.cache.runJob supplier w.now j state).1
    if j.isReply then ∃ e, c.entry? k = some e ∧ e.fetching = false
    else ∃ i ∈ c.agenda, i.isReply = true ∧ i.key = k ∧ i.number = j.number ∧
      i.generation? = j.generation? := by
  obtain ⟨listed, rfl, g, carries, -⟩ := mem_fetchJobs.mp hj
  obtain ⟨s, f, there, flying, -, carries'⟩ := hw.flying_of_fetchJobs hj
  obtain rfl := Option.some.inj (carries.symm.trans carries')
  unfold runJob
  cases duty : j.duty with
  | call g producer =>
    rw [if_neg (by simp [Job.isReply, duty])]
    refine ⟨_, List.mem_map_of_mem listed, ?_⟩
    rw [if_pos rfl]
    exact ⟨rfl, rfl, rfl, by simp [Job.generation?, duty]⟩
  | reply g producer call =>
    rw [if_pos (by simp [Job.isReply, duty])]
    obtain rfl : g = f.generation := by simpa [Job.generation?, duty] using carries
    have alive : (w.cache.without j).abandoned = false := hw.alive there
    have settled := commit_unmarked w.now (c := w.cache.without j) ⟨s, f, there, flying, rfl⟩
      (supplier.reply producer call state)
    simpa only [settle, alive, Bool.false_eq_true, if_false] using settled
  | release producer call => simp [Job.generation?, duty] at carries
  | poll period => simp [Job.generation?, duty] at carries
  | collect token => simp [Job.generation?, duty] at carries

end Course

/-- In every reachable course, a fetch is in flight for an entry just when one job works for the entry
    and carries out that fetch, and just when the entry is marked as being fetched; otherwise no
    job works for it. The job first calls the producer. When it has the answer, whatever that is, it
    takes the mark off; and so does the result of the fetch in flight however it is brought. -/
theorem fetching_iff_one_job {w : Course α} (hw : w.Reachable) {k : Key} {s : Slot α}
    (there : w.cache.slots.find? k = some s) :
    (∀ g, s.inFlight.map Flight.generation = some g ↔
      ∃ j, w.fetchJobs k = [j] ∧ j.generation? = some g) ∧
    (s.entry.fetching = true ↔ ∃ g, s.inFlight.map Flight.generation = some g) ∧
    (s.entry.fetching = true ↔ (w.fetchJobs k).length = 1) ∧
    (s.entry.fetching = false ↔ w.fetchJobs k = []) ∧
    (∀ j ∈ w.fetchJobs k, ∀ (σ : Type) (supplier : Supplier σ α) (state : σ),
      let c := (w.cache.runJob supplier w.now j state).1
      if j.isReply then ∃ e, c.entry? k = some e ∧ e.fetching = false
      else ∃ i ∈ c.agenda, i.isReply = true ∧ i.key = k ∧ i.number = j.number ∧
        i.generation? = j.generation?) ∧
    ∀ g now result, s.inFlight.map Flight.generation = some g →
      ∃ e, Cache.entry? (w.cache.commit now k g result) k = some e ∧ e.fetching = false := by
  have marked : s.entry.fetching = s.inFlight.isSome := hw.marked s there
  have settles : ∀ g now result, s.inFlight.map Flight.generation = some g →
      ∃ e, Cache.entry? (w.cache.commit now k g result) k = some e ∧ e.fetching = false := by
    intro g now result flies
    obtain ⟨f, flying, rfl⟩ := Option.map_eq_some_iff.mp flies
    exact commit_unmarked now ⟨s, f, there, flying, rfl⟩ result
  have works := fun j (hj : j ∈ w.fetchJobs k) σ (supplier : Supplier σ α) state =>
    hw.run_fetchJob hj supplier state
  rw [marked]
  cases hf : s.inFlight with
  | none =>
    have nobody := hw.fetchJobs_idle there hf
    rw [hf] at settles
    refine ⟨fun g => ?_, ?_, ?_, ?_, works, settles⟩
    · simp [nobody]
    · simp
    · simp [nobody]
    · simp [nobody]
  | some f =>
    obtain ⟨j, only, carries⟩ := hw.fetchJobs_flying there hf
    rw [hf] at settles
    refine ⟨fun g => ?_, ?_, ?_, ?_, works, settles⟩
    · simp [only, carries]
    · simp
    · simp [only]
    · simp [only]

/-- The entry was evicted while it was fetched, and made anew: of the two jobs that fetch the query
    one works for the new entry. -/
theorem refounded_entry_fetching :
    let w : Course Nat := .played 0 [.subscribe (.single "tasks") 0 {}, .run 1 1000 (.ok 1),
      .unsubscribe 0, .subscribe (.single "tasks") 0 {}]
    w.cache.agenda.length = 2 ∧
      ∃ s, w.cache.slots.find? (.single "tasks") = some s ∧ s.entry.fetching = true ∧
        (w.fetchJobs (.single "tasks")).length = 1 := by
  refine ⟨by decide, _, rfl, rfl, ?_⟩
  exact (fetching_iff_one_job (Course.reachable_played _ _) rfl).2.2.1.mp rfl

end TaskWatch.Cache
