import TaskWatch.Proofs.Cache.Placed

/-! Counts balance.

    In every reachable course, as long as somebody can use the cache, the counts agree with the book.
    Whoever subscribed was counted once. The entries that were ever made are those that there are, those
    evicted, and those dropped together. Every fetch that was counted is still under way, or ended in
    one way: its answer was entered, it failed, it was overtaken, it was given up, or its query had no
    entry when it finished. A fetch that was given up before it ran never calls its producer, and any
    other calls it once, when it runs. Of that the book says what the suppliers of the data see. -/

namespace TaskWatch.Cache

variable {α : Type} {c : Cache α}

/-! ### Entries -/

/-- What two lists without repeats do not share tells how much their lengths differ. -/
theorem length_exchange {l l' : List (Key × Nat)} (once : l.Nodup) (once' : l'.Nodup) :
    l'.length + (l.filter (fun x => x ∉ l')).length =
      l.length + (l'.filter (fun x => x ∉ l)).length := by
  have common : (l.filter (fun x => x ∈ l')).Perm (l'.filter (fun x => x ∈ l)) := by
    refine (List.perm_ext_iff_of_nodup (once.filter _) (once'.filter _)).mpr fun x => ?_
    simp [and_comm]
  have parts (l l' : List (Key × Nat)) :
      l.length = (l.filter (fun x => x ∈ l')).length + (l.filter (fun x => x ∉ l')).length := by
    have split := List.filter_append_perm (fun x => decide (x ∈ l')) l
    rw [← split.length_eq, List.length_append]
    simp
  have first := parts l l'
  have second := parts l' l
  have same := common.length_eq
  omega

namespace Course

variable {w w' : Course α} {f : FetchId}

/-- The entries that there are after the step and were not before. -/
def newEntries (w w' : Course α) : List (Key × Nat) :=
  w'.cache.roster.filter (fun r => r ∉ w.cache.roster)

/-- On the way to the course so many entries were made, and so many were dropped together. -/
inductive Tally : Course α → Nat → Nat → Prop
  | fresh (grace : Nat) (now : Time.Instant) : Tally (fresh grace now) 0 0
  | goesOn {w w' : Course α} {made dropped : Nat} (tally : Tally w made dropped)
      (step : Step w w') (kept : ∀ n, w'.past = n :: w.past → n.deed.sign? = none) :
      Tally w' (made + (newEntries w w').length) dropped
  | drops {w w' : Course α} {made dropped : Nat} {n : Note α} (tally : Tally w made dropped)
      (step : Step w w') (past : w'.past = n :: w.past) (said : n.deed.sign?.isSome = true) :
      Tally w' made (dropped + w.cache.slots.size)

theorem Tally.reachable {made dropped : Nat} (tally : w.Tally made dropped) : w.Reachable := by
  induction tally with
  | fresh grace now => exact ⟨grace, now, .refl⟩
  | goesOn tally step kept ih => exact ih.leads (.single step)
  | drops tally step past said ih => exact ih.leads (.single step)

theorem Reachable.tally (hw : w.Reachable) : ∃ made dropped, w.Tally made dropped := by
  obtain ⟨grace, now, h⟩ := hw
  induction h with
  | refl => exact ⟨0, 0, .fresh grace now⟩
  | @tail w w' before step ih =>
    obtain ⟨made, dropped, tally⟩ := ih
    by_cases all : ∃ n, w'.past = n :: w.past ∧ n.deed.sign?.isSome = true
    · obtain ⟨n, past, said⟩ := all
      exact ⟨_, _, tally.drops step past said⟩
    · refine ⟨_, _, tally.goesOn step fun n past => ?_⟩
      exact Option.not_isSome_iff_eq_none.mp fun said => all ⟨n, past, said⟩

theorem Reachable.roster_nodup (hw : w.Reachable) : w.cache.roster.Nodup :=
  hw.registered.keys.of_map

/-- An entry is on the roster if it is found. -/
theorem Reachable.mem_roster_iff (hw : w.Reachable) {k : Key} {b : Nat} :
    (k, b) ∈ w.cache.roster ↔ ∃ s, w.cache.slots.find? k = some s ∧ s.birth = b := by
  constructor
  · intro h
    obtain ⟨⟨l, s⟩, row, same⟩ := List.mem_map.mp h
    obtain ⟨rfl, rfl⟩ := Prod.mk.inj same
    exact ⟨s, hw.registered.find?_iff.mpr row, rfl⟩
  · rintro ⟨s, there, rfl⟩
    exact mem_roster there

/-- Unless all entries are dropped, as many leave the roster as are evicted. -/
theorem Step.left_roster (step : Step w w') (hw : w.Reachable)
    (kept : ∀ n, w'.past = n :: w.past → n.deed.sign? = none) :
    (w.cache.roster.filter (fun r => r ∉ w'.cache.roster)).length + w.cache.stats.evictions =
      w'.cache.stats.evictions := by
  have hw' : w'.Reachable := hw.leads (.single step)
  have evicted {k : Key} {b : Nat} (there : (k, b) ∈ w.cache.roster)
      (gone : (k, b) ∉ w'.cache.roster) : Evicted k w w' := by
    obtain ⟨s, found, rfl⟩ := hw.mem_roster_iff.mp there
    have loses : Loses k w w' :=
      ⟨s, found, fun s' found' same => gone (hw'.mem_roster_iff.mpr ⟨s', found', same⟩)⟩
    rcases step.loses hw loses with ⟨n, past, all⟩ | ⟨evicted, -⟩
    · have said := kept n past
      rcases all with all | all <;> simp [all, Deed.sign?] at said
    · exact evicted
  rcases step.counts hw with ⟨same, none⟩ | ⟨more, k, own, only⟩
  · have nobody : w.cache.roster.filter (fun r => r ∉ w'.cache.roster) = [] := by
      refine List.filter_eq_nil_iff.mpr fun r there gone => ?_
      exact none r.1 (evicted there (by simpa using gone))
    rw [nobody, same]
    exact Nat.zero_add _
  · obtain ⟨s, there⟩ := Option.isSome_iff_exists.mp own.there
    have one : (w.cache.roster.filter (fun r => r ∉ w'.cache.roster)).Perm [(k, s.birth)] := by
      refine (List.perm_ext_iff_of_nodup (hw.roster_nodup.filter _) (List.nodup_singleton _)).mpr
        fun r => ?_
      rw [List.mem_filter, List.mem_singleton, decide_eq_true_iff]
      constructor
      · rintro ⟨listed, gone⟩
        obtain ⟨s', there', birth⟩ := hw.mem_roster_iff.mp listed
        obtain rfl := only r.1 (evicted listed gone)
        obtain rfl := Option.some.inj (there.symm.trans there')
        exact Prod.ext rfl birth.symm
      · rintro rfl
        refine ⟨mem_roster there, fun still => ?_⟩
        obtain ⟨s', there', -⟩ := hw'.mem_roster_iff.mp still
        simp [own.gone] at there'
    rw [one.length_eq, more]
    exact Nat.add_comm _ _

/-- Entries that are made and not dropped stay or are evicted. -/
theorem Tally.balance {made dropped : Nat} (tally : w.Tally made dropped) :
    made = w.cache.slots.size + w.cache.stats.evictions + dropped := by
  induction tally with
  | fresh grace now => rfl
  | @goesOn w w' made dropped tally step kept ih =>
    have hw := tally.reachable
    have hw' : w'.Reachable := hw.leads (.single step)
    have exchange := length_exchange hw.roster_nodup hw'.roster_nodup
    have left := step.left_roster hw kept
    have size (w : Course α) : w.cache.slots.size = w.cache.roster.length :=
      (List.length_map _).symm
    rw [newEntries, ih, size, size]
    omega
  | @drops w w' made dropped n tally step past said ih =>
    have empty : w'.cache.slots.size = 0 := by
      rw [(step.cleared past said).1]
      rfl
    have evictions : w'.cache.stats.evictions = w.cache.stats.evictions := by
      rcases step.counts tally.reachable with ⟨same, -⟩ | ⟨-, k, own, -⟩
      · exact same
      · simp [own.plain past] at said
    rw [empty, evictions]
    omega

/-! ### Fetches -/

/-- The fetches that ended in this way. -/
def ended (w : Course α) (e : Ending) : List FetchId :=
  (w.endings.filter (fun x => x.1 == e)).map Prod.snd

/-- The fetches under way. -/
def live (w : Course α) : List FetchId := w.cache.underway.map Prod.fst

/-- The fetches that were given up and did not take an answer all the same. -/
def aborted (w : Course α) : List FetchId :=
  w.starts.filter (fun f => GivenUp w.past f ∧ f ∉ finished w.past)

/-- A cache that can be used could be used before. -/
theorem Step.alive (step : Step w w') (alive : w'.cache.abandoned = false) :
    w.cache.abandoned = false := by
  cases step with
  | abandon => exact nomatch alive
  | @run σ supplier s j listed due =>
    have changes : Changes w.now (supplier.answer? j s) w.cache
        (w.cache.runJob supplier w.now j s).1 := runJob_changes listed
    exact (congrArg (·.2.2) changes.kept).symm.trans alive
  | straggle k g answer started given_up unsettled =>
    have kept : (w.cache.settle w.now k g answer).kept = w.cache.kept := kept_settle
    exact (congrArg (·.2.2) kept).symm.trans alive
  | answer waits calls => exact alive
  | pass now later => exact alive
  | look i held => exact alive
  | forget i gone => exact alive
  | _ => assumption

/-- As many ended in this way as were reported so. -/
theorem length_ended (w : Course α) (e : Ending) : (w.ended e).length = tallied e w.endings := by
  rw [ended, List.length_map, tallied, List.countP_eq_length_filter]

/-- Each fetch that ended did so in one way. -/
theorem ended_perm (w : Course α) : (w.endings.map Prod.snd).Perm
    (w.ended .committed ++ (w.ended .failed ++ (w.ended .discarded ++ w.ended .orphaned))) := by
  unfold ended
  induction w.endings with
  | nil => exact .nil
  | cons x rest ih =>
    obtain ⟨e, f⟩ := x
    have moved (l l' : List FetchId) : (f :: (l ++ l')).Perm (l ++ f :: l') := List.perm_middle.symm
    refine (ih.cons f).trans ?_
    cases e with
    | committed => exact .refl _
    | failed => exact moved ..
    | discarded => exact (moved ..).trans ((moved ..).append_left _)
    | orphaned => exact (moved ..).trans (((moved ..).trans ((moved ..).append_left _)).append_left _)

/-- What is counted of the fetches, and of those who subscribed. -/
structure Totals (w : Course α) : Prop where
  served : w.cache.stats.served = givenOut w.past
  fetches : w.cache.stats.fetches = w.starts.length
  failures : w.cache.stats.failures = tallied .failed w.endings
  discarded : w.cache.stats.discarded = tallied .discarded w.endings
  /-- As long as somebody can use the cache, every answer that is taken is reported. -/
  ended : w.cache.abandoned = false → w.endings.map Prod.snd = finished w.past

theorem Totals.step (inv : w.Totals) (hw : w.Reachable) (step : Step w w') : w'.Totals := by
  rcases step.counted hw with ⟨past, stats, -⟩ | ⟨n, past, accounts⟩
  · constructor
    case served => rw [stats, past, inv.served]
    case fetches => rw [stats, inv.fetches, starts, starts, past]
    case failures => rw [stats, inv.failures, endings, endings, past]
    case discarded => rw [stats, inv.discarded, endings, endings, past]
    case ended =>
      intro alive
      rw [endings, past]
      exact inv.ended (step.alive alive)
  · have endings : w'.endings = Cache.endings n.events ++ w.endings := by
      rw [endings, past, List.flatMap_cons]
      rfl
    constructor
    case served => rw [past, givenOut_cons, ← inv.served, accounts.served]
    case fetches =>
      rw [starts_booked past, List.length_append, ← inv.fetches, accounts.fetches, Nat.add_comm]
    case failures =>
      rw [endings, tallied, List.countP_append, ← tallied, ← tallied, ← inv.failures,
        accounts.failures, Nat.add_comm]
    case discarded =>
      rw [endings, tallied, List.countP_append, ← tallied, ← tallied, ← inv.discarded,
        accounts.discarded, Nat.add_comm]
    case ended =>
      intro alive
      have alive := step.alive alive
      rw [endings, List.map_append, accounts.ended alive, inv.ended alive, past, finished_cons]

theorem Reachable.totals (hw : w.Reachable) : w.Totals := by
  obtain ⟨grace, now, h⟩ := hw
  induction h with
  | refl => exact ⟨rfl, rfl, rfl, rfl, fun _ => rfl⟩
  | tail before step ih => exact ih.step ⟨grace, now, before⟩ step

/-- Every fetch that was started has come to one thing. -/
theorem Reachable.fates (hw : w.Reachable) :
    w.starts.Perm (w.live ++ (finished w.past ++ w.aborted)) := by
  have told := hw.told
  have mem_aborted {f : FetchId} : f ∈ w.aborted ↔
      f ∈ w.starts ∧ GivenUp w.past f ∧ f ∉ finished w.past := by
    simp [aborted]
  have once : (w.live ++ (finished w.past ++ w.aborted)).Nodup := by
    refine List.nodup_append.mpr ⟨told.single, List.nodup_append.mpr
      ⟨told.finishedOnce, hw.starts_nodup.filter _, ?_⟩, ?_⟩
    · rintro f took f' hf' rfl
      exact (mem_aborted.mp hf').2.2 took
    · rintro f hf f' hf' rfl
      have works := mem_underway.mp hf
      rcases List.mem_append.mp hf' with took | given
      · exact (told.done f took).2.1 works
      · exact (hw.started_of_works works).2 (mem_aborted.mp given).2.1
  refine (List.perm_ext_iff_of_nodup hw.starts_nodup once).mpr fun f => ?_
  rw [List.mem_append, List.mem_append, mem_aborted, live, mem_underway]
  constructor
  · intro started
    rcases told.kept f started with works | took | given
    · exact .inl works
    · exact .inr (.inl took)
    · by_cases took : f ∈ finished w.past
      · exact .inr (.inl took)
      · exact .inr (.inr ⟨started, given, took⟩)
  · rintro (works | took | given)
    · exact (hw.started_of_works works).1
    · exact (told.done f took).1
    · exact given.1

/-- A fetch that has not called its producer waits to, or was given up before it could. -/
theorem Reachable.uncalled_iff (hw : w.Reachable) (started : f ∈ w.starts) :
    f ∉ called w.past ↔ (f, false) ∈ w.cache.underway ∨
      ∃ older, older <:+ w.past ∧ GivenUp older f ∧ f ∉ called older := by
  have told := hw.told
  constructor
  · intro uncalled
    rcases told.kept f started with works | took | given
    · obtain ⟨⟨f, b⟩, listed, rfl⟩ := List.mem_map.mp (mem_underway.mpr works)
      cases b with
      | false => exact .inl listed
      | true => exact (uncalled ((told.callers f true listed).mp rfl)).elim
    · have given := (told.done f took).2.2.resolve_left uncalled
      exact .inr ⟨w.past, List.suffix_rfl, given, uncalled⟩
    · exact .inr ⟨w.past, List.suffix_rfl, given, uncalled⟩
  · rintro (waits | ⟨older, earlier, given, uncalled⟩)
    · exact fun hc => Bool.false_ne_true ((told.callers f false waits).mpr hc)
    · exact hw.spurned older earlier f given uncalled

/-- The counts of a course balance. -/
structure Balanced (w : Course α) : Prop where
  /-- Whoever subscribed was counted in one way. -/
  served : w.cache.stats.hits + w.cache.stats.misses + w.cache.stats.staleHits +
    w.cache.stats.joined = givenOut w.past
  /-- Of the entries that were made there are still some, some were evicted, and the others were
      dropped together. -/
  entries : (∃ made dropped, w.Tally made dropped) ∧ ∀ made dropped, w.Tally made dropped →
    made = w.cache.slots.size + w.cache.stats.evictions + dropped
  fetches : w.cache.stats.fetches = w.starts.length ∧ w.starts.Nodup
  failures : w.cache.stats.failures = (w.ended .failed).length
  discarded : w.cache.stats.discarded = (w.ended .discarded).length
  /-- Every fetch is one of these, and only one. -/
  fates : w.starts.Perm (w.live ++ (w.ended .committed ++ (w.ended .failed ++
    (w.ended .discarded ++ (w.aborted ++ w.ended .orphaned)))))
  /-- A fetch ends without an entry just when its query has none as it takes its answer. -/
  orphaned : ∀ w' n, Step w w' → w'.past = n :: w.past → ∀ x ∈ Cache.endings n.events,
    x.1 = .orphaned ↔ w.cache.slots.find? x.2.1 = none
  /-- A fetch calls its producer once at most. -/
  called : ∀ f, (called w.past).count f ≤ 1
  /-- One that has not called it waits to, or was given up before it first ran. -/
  uncalled : ∀ f ∈ w.starts, f ∉ Cache.called w.past ↔
    (∃ j ∈ w.cache.agenda, j.key = f.1 ∧ ∃ producer, j.duty = .call f.2 producer) ∨
      ∃ older, older <:+ w.past ∧ GivenUp older f ∧ f ∉ Cache.called older
  /-- On whatever way the course was come to, the calls that its suppliers saw were for the fetches that
      called by the book. -/
  placed : (∃ calls, w.Placed calls) ∧
    ∀ calls, w.Placed calls → calls.map Prod.fst = (Cache.called w.past).map some

/-- A fetch waits to call its producer while a job is to call it. -/
theorem mem_underway_waiting :
    (f, false) ∈ w.cache.underway ↔
      ∃ j ∈ w.cache.agenda, j.key = f.1 ∧ ∃ producer, j.duty = .call f.2 producer := by
  obtain ⟨k, g⟩ := f
  rw [underway, List.mem_filterMap]
  refine exists_congr fun j => and_congr_right fun _ => ?_
  unfold Job.fetch?
  cases j.duty <;> simp

end Course

/-- In every reachable course of a cache that can be used, the counts balance. Those of the ways in
    which subscribers were served add up to the subscribers. The entries that were ever made are those
    that there are, those evicted and those dropped together. Of the fetches each that was counted
    is still under way, or was entered, failed, was overtaken, was given up, or ended without an
    entry. A fetch calls its producer once at most, and those that were given up before they first
    ran are the ones that never do; so whoever supplies the data sees it. -/
theorem statistics_balance {w : Course α} (hw : w.Reachable) (alive : w.cache.abandoned = false) :
    w.Balanced := by
  have totals := hw.totals
  constructor
  case served => exact totals.served
  case entries => exact ⟨hw.tally, fun made dropped tally => tally.balance⟩
  case fetches => exact ⟨totals.fetches, hw.starts_nodup⟩
  case failures => rw [totals.failures, Course.length_ended]
  case discarded => rw [totals.discarded, Course.length_ended]
  case fates =>
    have parts : (finished w.past).Perm _ := totals.ended alive ▸ w.ended_perm
    refine hw.fates.trans (.append_left _ ((parts.append_right _).trans ?_))
    simp only [List.append_assoc]
    exact .append_left _ (.append_left _ (.append_left _ List.perm_append_comm))
  case orphaned =>
    intro w' n step past
    rcases step.counted hw with ⟨past', -⟩ | ⟨n', past', accounts⟩
    · exact (List.cons_ne_self _ _ (past.symm.trans past')).elim
    · obtain rfl := (List.cons.inj (past.symm.trans past')).1
      exact accounts.orphaned
  case called => exact fun f => List.nodup_iff_count_le_one.mp hw.told.calledOnce f
  case uncalled =>
    intro f started
    rw [hw.uncalled_iff started, Course.mem_underway_waiting]
  case placed => exact ⟨hw.placed, fun calls placed => placed.map_fst⟩

/-- Of five fetches one was superseded before it ran, one overtaken after an eviction, one entered, one
    failed, and one is under way. -/
theorem five_fetches_five_fates :
    let k : Key := .single "tasks"
    let w : Course Nat := .played 0 [.subscribe k 0 {}, .refetch k, .run 2 10 (.ok 1),
      .unsubscribe 0, .subscribe k 0 {}, .pass 10, .run 2 0 (.ok 1), .run 3 0 (.ok 7),
      .run 3 0 (.ok 7), .refetch k, .run 4 0 (.error "down"), .run 4 0 (.error "down"), .refetch k]
    w.cache.abandoned = false ∧ called w.past = [(k, 7), (k, 6), (k, 3)] ∧
      (∃ calls, w.Placed calls ∧ calls.map Prod.fst = [some (k, 7), some (k, 6), some (k, 3)]) ∧
      w.starts.Perm [(k, 8), (k, 6), (k, 7), (k, 3), (k, 2)] := by
  intro k w
  have alive : w.cache.abandoned = false := by decide
  have hw : w.Reachable := Course.reachable_played 0 _
  have balanced := statistics_balance hw alive
  have parts : w.live ++ (w.ended .committed ++ (w.ended .failed ++ (w.ended .discarded ++
      (w.aborted ++ w.ended .orphaned)))) = [(k, 8), (k, 6), (k, 7), (k, 3), (k, 2)] := by
    decide +kernel
  have booked : called w.past = [(k, 7), (k, 6), (k, 3)] := by decide +kernel
  obtain ⟨⟨calls, placed⟩, same⟩ := balanced.placed
  have seen : calls.map Prod.fst = [some (k, 7), some (k, 6), some (k, 3)] := by
    rw [same calls placed, booked]
    rfl
  exact ⟨alive, booked, ⟨calls, placed, seen⟩, balanced.fates.trans (.of_eq parts)⟩

end TaskWatch.Cache
