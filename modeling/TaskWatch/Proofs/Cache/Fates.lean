import TaskWatch.Proofs.Cache.Counted

/-! What becomes of fetches.

    A fetch that was started stays under way until it takes its answer or is given up: for one that
    takes over, or because all entries are dropped. An eviction does not give it up. So at any time a
    fetch is under way, has taken its answer, or was given up. It calls its producer once at most,
    and if it never does, it was given up before it could, or still waits to.

    `Traced` says so of a course. It holds of every reachable course, because only few things can
    happen to a fetch in one step, which `Note.Moves` lists, and because `Step.kept` leaves no fetch
    behind. -/

namespace TaskWatch.Cache

variable {α : Type} {now : Time.Instant} {k : Key} {c c' : Cache α} {s : Slot α} {n g : Nat}

/-! ### Fetches that were given up -/

namespace History

/-- The generations of the fetches that were in flight when another took over or all entries were
    dropped. -/
def givenUp : History α → List Nat
  | [] => []
  | (_, .started _) :: rest => (flight? rest).toList ++ givenUp rest
  | (_, .cleared) :: rest => (flight? rest).toList ++ givenUp rest
  | _ :: rest => givenUp rest

/-- Every fetch that was in flight was started. -/
theorem flight?_subset_started {h : History α} (ho : Orderly h) {x : Nat}
    (hx : x ∈ (flight? h).toList) : x ∈ started h :=
  (started_of_flight ho (Option.mem_toList.mp hx)).1

/-- Every fetch that was given up was started. -/
theorem givenUp_subset_started : ∀ {h : History α}, Orderly h → ∀ x ∈ givenUp h, x ∈ started h
  | (_, .started g) :: rest, ho, x, hx => by
    refine List.mem_cons_of_mem _ ?_
    rcases List.mem_append.mp hx with hx | hx
    · exact flight?_subset_started ho.2 hx
    · exact givenUp_subset_started ho.2 x hx
  | (_, .succeeded g a) :: rest, ho, x, hx => givenUp_subset_started (h := rest) ho.2 x hx
  | (_, .failed g m) :: rest, ho, x, hx => givenUp_subset_started (h := rest) ho.2 x hx
  | (_, .invalidated) :: rest, ho, x, hx => givenUp_subset_started (h := rest) ho x hx
  | (_, .evicted) :: rest, ho, x, hx => givenUp_subset_started (h := rest) ho x hx
  | (_, .cleared) :: rest, ho, x, hx => by
    rcases List.mem_append.mp hx with hx | hx
    · exact flight?_subset_started (h := rest) ho hx
    · exact givenUp_subset_started (h := rest) ho x hx

/-- Whatever was given up was started before the fetch in flight. -/
theorem givenUp_lt_flight : ∀ {h : History α} {g : Nat}, Orderly h → flight? h = some g →
    ∀ x ∈ givenUp h, x < g
  | (_, .started g') :: rest, g, ho, hf, x, hx => by
    obtain rfl : g' = g := Option.some.inj hf
    rcases List.mem_append.mp hx with hx | hx
    · exact ho.1 x (flight?_subset_started ho.2 hx)
    · exact ho.1 x (givenUp_subset_started ho.2 x hx)
  | (_, .invalidated) :: rest, g, ho, hf, x, hx => givenUp_lt_flight (h := rest) ho hf x hx

/-- What was in flight when its entry was evicted was not given up. -/
theorem not_givenUp_of_evicted : ∀ {h : History α}, Orderly h → ∀ x ∈ evictedFlights h,
    x ∉ givenUp h
  | (_, .started g) :: rest, ho, x, hx, given => by
    rcases List.mem_append.mp given with given | given
    · exact Nat.lt_irrefl x (evictedFlights_lt_flight ho.2 (Option.mem_toList.mp given) x hx)
    · exact not_givenUp_of_evicted (h := rest) ho.2 x hx given
  | (_, .succeeded g a) :: rest, ho, x, hx, given => not_givenUp_of_evicted (h := rest) ho.2 x hx given
  | (_, .failed g m) :: rest, ho, x, hx, given => not_givenUp_of_evicted (h := rest) ho.2 x hx given
  | (_, .invalidated) :: rest, ho, x, hx, given => not_givenUp_of_evicted (h := rest) ho x hx given
  | (_, .evicted) :: rest, ho, x, hx, given => by
    have given : x ∈ givenUp rest := given
    rcases List.mem_append.mp hx with hx | hx
    · exact Nat.lt_irrefl x (givenUp_lt_flight (h := rest) ho (Option.mem_toList.mp hx) x given)
    · exact not_givenUp_of_evicted (h := rest) ho x hx given
  | (_, .cleared) :: rest, ho, x, hx, given => by
    rcases List.mem_append.mp given with given | given
    · exact Nat.lt_irrefl x
        (evictedFlights_lt_flight (h := rest) ho (Option.mem_toList.mp given) x hx)
    · exact not_givenUp_of_evicted (h := rest) ho x hx given

/-- What was given up stays so. -/
theorem givenUp_append (before : History α) : ∀ h : History α, givenUp before ⊆ givenUp (h ++ before)
  | [], _, hx => hx
  | (_, .started _) :: rest, _, hx => List.mem_append_right _ (givenUp_append before rest hx)
  | (_, .succeeded _ _) :: rest, _, hx => givenUp_append before rest hx
  | (_, .failed _ _) :: rest, _, hx => givenUp_append before rest hx
  | (_, .invalidated) :: rest, _, hx => givenUp_append before rest hx
  | (_, .evicted) :: rest, _, hx => givenUp_append before rest hx
  | (_, .cleared) :: rest, _, hx => List.mem_append_right _ (givenUp_append before rest hx)

end History

/-! ### What a change does to the fetches under way -/

/-- A job carries out the fetch. -/
def Works (c : Cache α) (f : FetchId) : Prop := ∃ n, c.agenda.Has f.1 n (.fetch f.2)

theorem Job.fetch?_eq {j : Job} {f : FetchId} :
    (∃ b, j.fetch? = some (f, b)) ↔ j.key = f.1 ∧ j.duty.post? = some (.fetch f.2) := by
  obtain ⟨k, g⟩ := f
  unfold Job.fetch? Duty.post?
  cases j.duty <;> simp

/-- The fetches under way are those that a job carries out. -/
theorem mem_underway {f : FetchId} : f ∈ c.underway.map Prod.fst ↔ c.Works f := by
  constructor
  · intro h
    obtain ⟨⟨f, b⟩, hf, rfl⟩ := List.mem_map.mp h
    obtain ⟨j, listed, carries⟩ := List.mem_filterMap.mp hf
    obtain ⟨own, post⟩ := Job.fetch?_eq.mp ⟨b, carries⟩
    exact ⟨j.number, j, listed, own, rfl, post⟩
  · rintro ⟨n, j, listed, own, -, post⟩
    obtain ⟨b, carries⟩ := Job.fetch?_eq.mpr ⟨own, post⟩
    exact List.mem_map.mpr ⟨(f, b), List.mem_filterMap.mpr ⟨j, listed, carries⟩, rfl⟩

/-- A fetch that starts has a job. -/
theorem works_launch : (c.launch now k s).Works (k, c.nextNumber) :=
  ⟨_, has_spawn.mpr (.inr ⟨rfl, rfl, rfl⟩)⟩

/-- The cache is at the same fetches, and has reported no other as started. -/
def Idles (c c' : Cache α) : Prop := ∀ f ∈ starts c'.journal, f ∈ starts c.journal

theorem idles_stopTimer (timer : Option Timer) : c.Idles (c.stopTimer now k timer) := by
  cases timer with
  | none => exact fun _ hf => hf
  | some timer =>
    rw [stopTimer, abort_eq]
    exact fun _ hf => hf

theorem idles_reschedule : c.Idles (c.reschedule now k) := by
  cases hs : c.slots.find? k with
  | none =>
    rw [reschedule_vacant hs]
    exact fun _ hf => hf
  | some s =>
    rw [reschedule_eq hs]
    split
    · exact fun _ hf => hf
    · cases s.period? with
      | none => exact idles_stopTimer s.timer
      | some period => exact idles_stopTimer s.timer

theorem idles_collect {token : Nat} : c.Idles (c.collect k token) := by
  unfold collect
  split
  · exact fun _ hf => hf
  · split <;> exact fun _ hf => hf

/-- A fetch that was started has a job, unless it had been started before. -/
theorem started_startFetch {supersede : Bool} {f : FetchId}
    (hf : f ∈ starts (c.startFetch now k supersede).1.journal) :
    f ∈ starts c.journal ∨ (c.startFetch now k supersede).1.Works f := by
  cases hs : c.slots.find? k with
  | none => exact .inl (by rwa [startFetch_vacant hs] at hf)
  | some s =>
    cases hi : s.inFlight with
    | none =>
      rw [startFetch_idle hs hi] at hf ⊢
      rcases List.mem_cons.mp hf with rfl | hf
      · exact .inr works_launch
      · exact .inl hf
    | some flight =>
      cases supersede with
      | false => exact .inl (by rwa [startFetch_joined hs hi] at hf)
      | true =>
        rw [startFetch_superseding hs hi] at hf ⊢
        rcases List.mem_cons.mp hf with rfl | hf
        · exact .inr works_launch
        · rw [abort_eq] at hf
          exact .inl hf

/-- What is plain tells of no start. -/
theorem Event.Plain.unstarted {e : Event} (plain : e.Plain α) : e.started? = none := by
  cases e with
  | started k g => simpa [Event.sign?] using plain k none
  | _ => rfl

/-- A change that takes no answer starts only fetches that have a job then. -/
theorem Change.started (h : Change now none c c') {f : FetchId} (hf : f ∈ starts c'.journal) :
    f ∈ starts c.journal ∨ c'.Works f := by
  cases h with
  | number => exact .inl hf
  | report plain =>
    rw [Cache.report, starts, List.filterMap_cons_none plain.unstarted] at hf
    exact .inl hf
  | count => exact .inl hf
  | found alive valid vacant => exact started_startFetch hf
  | join producer o there =>
    rw [abort?_eq] at hf
    exact .inl hf
  | start => exact started_startFetch hf
  | retime => exact .inl (idles_reschedule f hf)
  | collect listed duty => exact .inl (idles_collect (c := c.without _) f hf)
  | reply listed duty taken => cases taken
  | straggle given_up taken => cases taken
  | _ => exact .inl hf

/-- A fetch that a query has in flight gives way to one that takes over, and to no other. -/
theorem has_startFetch {supersede : Bool} {past : History α} {stray : Key → Nat → Prop} {l : Key}
    (inv : c.Staffed stray) (faithful : (cell now none k past c).Faithful)
    (has : c.agenda.Has l n (.fetch g)) :
    (c.startFetch now k supersede).1.agenda.Has l n (.fetch g) ∨
      l = k ∧ g ∈ History.givenUp (cell now none k past (c.startFetch now k supersede).1).history := by
  cases hs : c.slots.find? k with
  | none =>
    rw [startFetch_vacant hs]
    exact .inl has
  | some s =>
    cases hi : s.inFlight with
    | none =>
      rw [startFetch_idle hs hi]
      exact .inl (has_spawn.mpr (.inl has))
    | some flight =>
      cases supersede with
      | false =>
        rw [startFetch_joined hs hi]
        exact .inl has
      | true =>
        rw [startFetch_superseding hs hi]
        by_cases same : n = flight.job
        · subst same
          obtain ⟨rfl, post⟩ := inv.numbered.unique has (inv.named k s _ _ hs (.flight hi))
          obtain rfl := Post.fetch.inj post
          refine .inr ⟨rfl, ?_⟩
          have said : signs now l (none : Option (Except String α)) ((c.abort now flight.job).report
              (.superseding l flight.generation)).journal = signs now l none c.journal := by
            rw [abort_eq]
            exact (signs_cons _ _).trans rfl
          rw [cell, signs_launch, said]
          exact List.mem_append_left _ (Option.mem_toList.mpr (faithful.flying hs hi))
        · exact .inl (has_spawn.mpr (.inl (has_abort.mpr ⟨has, same⟩)))

/-- Putting a timer in line leaves fetches alone. -/
theorem has_reschedule {stray : Key → Nat → Prop} {l : Key} (inv : c.Staffed stray)
    (has : c.agenda.Has l n (.fetch g)) : (c.reschedule now k).agenda.Has l n (.fetch g) := by
  cases hs : c.slots.find? k with
  | none => rwa [reschedule_vacant hs]
  | some s =>
    have stopped : (c.stopTimer now k s.timer).agenda.Has l n (.fetch g) := by
      rw [agenda_stopTimer]
      refine has_abort?.mpr ⟨has, fun same => ?_⟩
      obtain ⟨period, named⟩ := Slot.names_timer same
      exact nomatch (inv.numbered.unique has (inv.named k s n _ hs named)).2
    rw [reschedule_eq hs]
    split
    · exact has
    · cases s.period? with
      | none => exact stopped
      | some period => exact has_spawn.mpr (.inl stopped)

/-- A change that takes no answer leaves the jobs of fetches, but for one that is given up. -/
theorem Change.keeps {past : Key → History α} {stray : Key → Nat → Prop} (h : Change now none c c')
    (faithful : ∀ k, (Cache.cell now none k (past k) c).Faithful) (inv : c.Staffed stray)
    (has : c.agenda.Has k n (.fetch g)) : c'.agenda.Has k n (.fetch g) ∨
      g ∈ History.givenUp (Cache.cell now none k (past k) c').history := by
  cases h with
  | @found l producer o alive valid vacant =>
    refine .inl ?_
    rw [startFetch_idle (find?_found ..) rfl]
    exact has_spawn.mpr (.inl has)
  | join producer o there =>
    refine .inl (has_abort?.mpr ⟨has, fun same => ?_⟩)
    obtain ⟨token, named⟩ := Slot.names_eviction same
    exact nomatch (inv.numbered.unique has (inv.named _ _ n _ there named)).2
  | @start l supersede =>
    rcases has_startFetch inv (faithful l) has with kept | ⟨rfl, given⟩
    · exact .inl kept
    · exact .inr given
  | retime => exact .inl (has_reschedule inv has)
  | linger there lonely => exact .inl (has_spawn.mpr (.inl has))
  | place listed duty => exact .inl ((has_place inv.numbered listed duty).mpr has)
  | reply listed duty taken => cases taken
  | @release j producer call listed duty =>
    refine .inl (Agenda.has_remove.mpr ⟨has, ?_⟩)
    rintro rfl
    obtain ⟨i, hi, -, same, post⟩ := has
    obtain rfl := inv.numbered.job hi listed same
    rw [duty] at post
    exact nomatch post
  | move listed duty => exact .inl ((has_move inv.numbered listed duty).mpr has)
  | @collect j token listed duty =>
    have other : c.agenda.Has j.key j.number (.collect token) :=
      ⟨j, listed, rfl, rfl, by rw [duty]; rfl⟩
    rw [agenda_collect]
    refine .inl (Agenda.has_remove.mpr ⟨has, ?_⟩)
    rintro rfl
    exact nomatch (inv.numbered.unique has other).2
  | straggle given_up taken => cases taken
  | _ => exact .inl has

/-- Changes that take no answer leave no fetch behind, old or new: it has a job, or was given up. -/
theorem Changes.keeps {past : Key → History α} (h : Changes now none c c')
    (faithful : ∀ k, (Cache.cell now none k (past k) c).Faithful)
    (inv : c.Staffed (Cache.Stray now none past c)) (booked : c.journal = []) {f : FetchId}
    (hf : c.Works f ∨ f ∈ starts c'.journal) :
    c'.Works f ∨ f.2 ∈ History.givenUp (Cache.cell now none f.1 (past f.1) c').history := by
  induction h with
  | refl =>
    refine .inl (hf.resolve_right fun new => ?_)
    rw [booked] at new
    exact List.not_mem_nil new
  | @tail b c' before change ih =>
    have onward (hf : c.Works f ∨ f ∈ starts b.journal) :
        c'.Works f ∨ f.2 ∈ History.givenUp (Cache.cell now none f.1 (past f.1) c').history := by
      rcases ih hf with ⟨n, has⟩ | given
      · exact (change.keeps (fun k => (Changes.cell before).faithful (faithful k))
          (Changes.staffed past before faithful inv) has).imp_left fun has => ⟨n, has⟩
      · obtain ⟨since, whole⟩ := Cell.Leads.history change.cell
        exact .inr (whole ▸ History.givenUp_append _ since given)
    rcases hf with works | new
    · exact onward (.inl works)
    · rcases change.started new with old | works
      · exact onward (.inr old)
      · exact .inl works

/-! ### Fetches in the book -/

/-- The generation of the fetch, if it is one of this query. -/
def FetchId.of? (k : Key) (f : FetchId) : Option Nat := if f.1 = k then some f.2 else none

theorem mem_filterMap_of {fs : List FetchId} : g ∈ fs.filterMap (FetchId.of? k) ↔ (k, g) ∈ fs := by
  rw [List.mem_filterMap]
  constructor
  · rintro ⟨⟨l, x⟩, hf, same⟩
    obtain ⟨rfl, rfl⟩ : l = k ∧ x = g := by simpa [FetchId.of?] using same
    exact hf
  · intro h
    exact ⟨(k, g), h, if_pos rfl⟩

/-- No fetch is listed twice if none is among those of one query. -/
theorem nodup_of_queries : ∀ {fs : List FetchId},
    (∀ k, (fs.filterMap (FetchId.of? k)).Nodup) → fs.Nodup
  | [], _ => .nil
  | f :: rest, once => by
    refine List.nodup_cons.mpr ⟨fun again => ?_, nodup_of_queries fun k => ?_⟩
    · have first := once f.1
      have own : FetchId.of? f.1 f = some f.2 := if_pos rfl
      rw [List.filterMap_cons_some own] at first
      exact (List.nodup_cons.mp first).1 (mem_filterMap_of.mpr again)
    · exact (once k).sublist ((List.sublist_cons_self f rest).filterMap _)

/-- The fetches of a query that a note tells were started. -/
theorem started_signs (n : Note α) (k : Key) :
    History.started (n.signs k) = (starts n.events).filterMap (FetchId.of? k) := by
  have quiet : History.started (n.deed.sign?.toList.map fun s => (n.moment, s)) = [] := by
    cases deed : n.deed <;> rfl
  have said : (fun e : Event => (e.sign? k n.deed.answer?).bind Sign.started?) =
      fun e => e.started?.bind (FetchId.of? k) := by
    funext e
    cases e with
    | started l g => by_cases own : l = k <;> simp [Event.sign?, Event.started?, FetchId.of?, own, Sign.started?]
    | committed l g =>
      rcases n.deed.answer? with _ | message | a <;>
        by_cases own : l = k <;> simp [Event.sign?, Event.started?, own, Sign.started?]
    | _ => simp [Event.sign?, Event.started?, Sign.started?]
  rw [History.started] at quiet
  rw [Note.signs, History.started, List.filterMap_append, quiet, List.nil_append, signs,
    List.filterMap_map, List.filterMap_filterMap, starts, List.filterMap_filterMap]
  exact congrArg (List.filterMap · n.events) said

/-- The fetches that called their producers, the latest first. -/
def called (past : List (Note α)) : List FetchId := past.filterMap (fun n => n.deed.called?)

/-- The fetches that took their answers, the latest first. -/
def finished (past : List (Note α)) : List FetchId := past.filterMap (fun n => n.deed.finished?)

theorem called_cons (n : Note α) (past : List (Note α)) :
    called (n :: past) = n.deed.called?.toList ++ called past := by
  rw [called, List.filterMap_cons]
  cases n.deed.called? <;> rfl

theorem finished_cons (n : Note α) (past : List (Note α)) :
    finished (n :: past) = n.deed.finished?.toList ++ finished past := by
  rw [finished, List.filterMap_cons]
  cases n.deed.finished? <;> rfl

/-- The fetch was given up. -/
def GivenUp (past : List (Note α)) (f : FetchId) : Prop :=
  f.2 ∈ History.givenUp (past.flatMap (Note.signs f.1))

instance (past : List (Note α)) (f : FetchId) : Decidable (GivenUp past f) :=
  inferInstanceAs (Decidable (f.2 ∈ History.givenUp (past.flatMap (Note.signs f.1))))

/-- What was given up at some time stays so. -/
theorem GivenUp.later {older past : List (Note α)} {f : FetchId} (given : GivenUp older f)
    (earlier : older <:+ past) : GivenUp past f := by
  obtain ⟨newer, rfl⟩ := earlier
  unfold GivenUp
  rw [List.flatMap_append]
  exact History.givenUp_append _ _ given

namespace Course

variable {w w' : Course α} {f : FetchId}

/-- The fetches that were started, the latest first. -/
def starts (w : Course α) : List FetchId := w.past.flatMap (fun n => Cache.starts n.events)

/-- The fetches that took their answers, and how each ended, the latest first. -/
def endings (w : Course α) : List (Ending × FetchId) :=
  w.past.flatMap (fun n => Cache.endings n.events)

theorem started_history (w : Course α) (k : Key) :
    (w.history k).started = w.starts.filterMap (FetchId.of? k) := by
  rw [history, starts, History.started, List.filterMap_flatMap, List.filterMap_flatMap]
  exact List.flatMap_congr fun n _ => started_signs n k

theorem mem_starts : f ∈ w.starts ↔ f.2 ∈ (w.history f.1).started := by
  rw [started_history, mem_filterMap_of]

theorem Reachable.starts_nodup (hw : w.Reachable) : w.starts.Nodup := by
  refine nodup_of_queries fun k => ?_
  rw [← started_history]
  exact (History.started_descending hw.faithful.orderly).imp Nat.ne_of_gt

/-- Every fetch under way was started. -/
theorem Reachable.started_of_works (hw : w.Reachable) (works : w.cache.Works f) :
    f ∈ w.starts ∧ ¬ GivenUp w.past f := by
  have orderly : (w.history f.1).Orderly := hw.faithful.orderly
  obtain ⟨n, has⟩ := works
  rcases hw.staffed.fetches _ _ _ has with strayed | ⟨s, there, named⟩
  · exact ⟨mem_starts.mpr (History.evictedFlights_subset_started orderly _ strayed),
      History.not_givenUp_of_evicted orderly _ strayed⟩
  · obtain ⟨flight, flying, -, same⟩ := named.flying
    have current := hw.flying_iff.mp ⟨s, flight, there, flying, same⟩
    exact ⟨mem_starts.mpr (History.started_of_flight orderly current).1, fun given =>
      Nat.lt_irrefl _ (History.givenUp_lt_flight orderly current _ given)⟩

/-- The book goes on with what the note tells was started. -/
theorem starts_booked {n : Note α} (past : w'.past = n :: w.past) :
    w'.starts = Cache.starts n.events ++ w.starts := by
  rw [starts, past, List.flatMap_cons]
  rfl

/-- To drop all entries gives up the fetches in flight, and no others. -/
theorem Reachable.dropped_works (hw : w.Reachable) (works : w.cache.Works f) :
    (w.cache.dropEntries w.now).Works f ∨ (w.history f.1).flight? = some f.2 := by
  obtain ⟨m, has⟩ := works
  by_cases unnamed : ∀ s ∈ w.cache.slots.rows.map Prod.snd, ∀ q, ¬ s.Names m q
  · exact .inl ⟨m, (has_foldl_abortAll _ w.cache).mpr ⟨has, unnamed⟩⟩
  · obtain ⟨s, hs, q, names⟩ : ∃ s ∈ w.cache.slots.rows.map Prod.snd, ∃ q, s.Names m q := by
      simpa using unnamed
    obtain ⟨⟨l, s⟩, row, rfl⟩ := List.mem_map.mp hs
    have there := hw.registered.find?_iff.mpr row
    obtain ⟨own, rfl⟩ :=
      hw.staffed.numbered.unique has (hw.staffed.named l s m q there names)
    obtain ⟨flight, flying, -, same⟩ := names.flying
    exact .inr (hw.flying_iff.mp ⟨s, flight, own ▸ there, flying, same⟩)

/-- What is done at one moment, and takes no answer, leaves no fetch behind. -/
theorem Effect.keeps (effect : Effect w w') (hw : w.Reachable) {n : Note α}
    (past : w'.past = n :: w.past) (answer : n.deed.answer? = none)
    (hf : w.cache.Works f ∨ f ∈ Cache.starts n.events) :
    w'.cache.Works f ∨ GivenUp w'.past f := by
  cases effect with
  | @changed c deed handles plain changes =>
    obtain rfl := (List.cons.inj past).1
    rw [show deed.answer? = none from answer] at changes
    have faithful (k : Key) : (Cache.cell w.now none k (w.history k) w.cache).Faithful := by
      rw [cell_before hw.booked]
      exact hw.faithful
    have staffed : w.cache.Staffed (Cache.Stray w.now none w.history w.cache) := by
      refine hw.staffed.mono fun k g hg => ?_
      rw [Cache.Stray, cell_before hw.booked]
      exact hg
    refine (changes.keeps faithful staffed hw.booked hf).imp_right fun given => ?_
    have behind : Cache.cell w.now deed.answer? f.1 (w.history f.1) c = _ :=
      cell_behind plain c handles f.1
    rw [show deed.answer? = none from answer] at behind
    rw [behind] at given
    exact given
  | dropped deed abandoned events said plain =>
    obtain rfl := (List.cons.inj past).1
    rcases hf with works | new
    · refine (hw.dropped_works works).imp_right fun flight => ?_
      have cleared : (w.after deed { w.cache.dropEntries w.now with
          abandoned, journal := events ++ w.cache.journal }).history f.1 = _ :=
        history_dropped hw.booked said plain
      unfold GivenUp
      rw [show List.flatMap _ _ = _ from cleared]
      exact List.mem_append_left _ (Option.mem_toList.mpr flight)
    · obtain ⟨e, reported, start⟩ := List.mem_filterMap.mp new
      rw [show w.cache.journal = [] from hw.booked, List.append_nil] at reported
      rw [(plain e reported).unstarted] at start
      cases start
  | answered waits calls => exact (List.cons_ne_self _ _ past.symm).elim
  | passed now handles later => exact (List.cons_ne_self _ _ past.symm).elim

/-- A fetch that is under way or starts in a step is under way then, or has taken its answer, or was
    given up. -/
theorem Step.kept (step : Step w w') (hw : w.Reachable)
    (hf : w.cache.Works f ∨ f ∈ w'.starts ∧ f ∉ w.starts) :
    w'.cache.Works f ∨ f ∈ finished w'.past ∨ GivenUp w'.past f := by
  rcases step.counted hw with ⟨past, -, same⟩ | ⟨n, past, accounts⟩
  · have works : w.cache.Works f := hf.resolve_right fun ⟨new, old⟩ => old (by rwa [Course.starts, ← past])
    exact .inl (mem_underway.mp ((same.map _).mem_iff.mpr (mem_underway.mpr works)))
  have booked : w.cache.Works f ∨ f ∈ Cache.starts n.events := by
    refine hf.imp_right fun ⟨new, old⟩ => ?_
    rw [starts_booked past] at new
    exact (List.mem_append.mp new).resolve_right old
  have quietly (quiet : Cache.starts n.events = []) : f ∈ w.cache.underway.map Prod.fst :=
    mem_underway.mpr (booked.resolve_right (quiet ▸ List.not_mem_nil))
  cases accounts.moves with
  | calls called answer quiet before after =>
    refine .inl (mem_underway.mp ((after.map _).mem_iff.mpr ?_))
    exact (before.map _).mem_iff.mp (quietly quiet)
  | @finishes f' called took quiet before =>
    rcases List.mem_cons.mp ((before.map _).mem_iff.mp (quietly quiet)) with rfl | rest
    · refine .inr (.inl ?_)
      rw [past, finished_cons, took]
      exact List.mem_cons_self ..
    · exact .inl (mem_underway.mp rest)
  | straggles called took quiet same => exact .inl (mem_underway.mp (same ▸ quietly quiet))
  | others called answer fewer => exact (step.effect.keeps hw past answer booked).imp_right .inr

/-- A fetch calls its producer only while it is under way. -/
theorem Accounts.works_of_called {n : Note α} (accounts : w.Accounts n c)
    (calls : n.deed.called? = some f) : w.cache.Works f := by
  cases accounts.moves with
  | calls called answer quiet before after =>
    obtain rfl := Option.some.inj (called.symm.trans calls)
    exact mem_underway.mp ((before.map _).mem_iff.mpr (List.mem_cons_self ..))
  | finishes called took quiet before => exact nomatch called.symm.trans calls
  | straggles called took quiet same => exact nomatch called.symm.trans calls
  | others called answer fewer => exact nomatch called.symm.trans calls

/-! ### What holds of all fetches -/

/-- The fetches under way are told by the book. -/
structure Told (w : Course α) : Prop where
  /-- A fetch has one job at most. -/
  single : (w.cache.underway.map Prod.fst).Nodup
  /-- The job tells whether the producer was called. -/
  callers : ∀ f b, (f, b) ∈ w.cache.underway → (b = true ↔ f ∈ called w.past)
  calledOnce : (called w.past).Nodup
  calledStarted : ∀ f ∈ called w.past, f ∈ w.starts
  finishedOnce : (finished w.past).Nodup
  done : ∀ f ∈ finished w.past, f ∈ w.starts ∧ ¬ w.cache.Works f ∧
    (f ∈ called w.past ∨ GivenUp w.past f)
  kept : ∀ f ∈ w.starts, w.cache.Works f ∨ f ∈ finished w.past ∨ GivenUp w.past f

/-- What was booked is not forgotten. -/
theorem Step.remembers (step : Step w w') : w.past <:+ w'.past := by
  rcases step.books with past | ⟨n, past⟩
  · exact past ▸ List.suffix_rfl
  · exact past ▸ List.suffix_cons n w.past

theorem Step.starts_subset (step : Step w w') : w.starts ⊆ w'.starts := by
  obtain ⟨newer, past⟩ := step.remembers
  unfold Course.starts
  rw [← past, List.flatMap_append]
  exact List.subset_append_right ..

theorem Step.called_subset (step : Step w w') : called w.past ⊆ called w'.past :=
  (step.remembers.sublist.filterMap _).subset

theorem starts_quiet {n : Note α} (past : w'.past = n :: w.past)
    (quiet : Cache.starts n.events = []) : w'.starts = w.starts := by
  rw [starts_booked past, quiet, List.nil_append]

theorem called_uncalled {n : Note α} (past : w'.past = n :: w.past)
    (uncalled : n.deed.called? = none) : called w'.past = called w.past := by
  rw [past, called_cons, uncalled]
  rfl

theorem finished_unanswered {n : Note α} (past : w'.past = n :: w.past)
    (answer : n.deed.answer? = none) : finished w'.past = finished w.past := by
  rw [past, finished_cons, Deed.finished?_of_answer answer]
  rfl

/-- Every fetch that was started is still under way, has taken its answer, or was given up. -/
theorem Told.kept_step (inv : w.Told) (hw : w.Reachable) (step : Step w w') (f : FetchId)
    (hf : f ∈ w'.starts) : w'.cache.Works f ∨ f ∈ finished w'.past ∨ GivenUp w'.past f := by
  by_cases old : f ∈ w.starts
  · rcases inv.kept f old with works | took | given
    · exact step.kept hw (.inl works)
    · exact .inr (.inl ((step.remembers.sublist.filterMap _).subset took))
    · exact .inr (.inr (given.later step.remembers))
  · exact step.kept hw (.inr ⟨hf, old⟩)

/-- A fetch that has taken its answer is done for good, for no job is begun for it again. -/
theorem Told.done_step (inv : w.Told) (step : Step w w') (hf : f ∈ finished w.past)
    (works : w'.cache.Works f → w.cache.Works f ∨ f ∉ w.starts) :
    f ∈ w'.starts ∧ ¬ w'.cache.Works f ∧ (f ∈ called w'.past ∨ GivenUp w'.past f) := by
  obtain ⟨started, gone, why⟩ := inv.done f hf
  refine ⟨step.starts_subset started, fun again => ?_, ?_⟩
  · exact (works again).elim gone fun new => new started
  · exact why.imp (fun called => step.called_subset called) fun given => given.later step.remembers

/-- Nothing was booked. -/
theorem Told.silent (inv : w.Told) (hw : w.Reachable) (step : Step w w') (past : w'.past = w.past)
    (same : w'.cache.underway.Perm w.cache.underway) : w'.Told := by
  have works {f : FetchId} : w'.cache.Works f ↔ w.cache.Works f := by
    rw [← mem_underway, ← mem_underway, (same.map _).mem_iff]
  constructor
  case single => exact (same.map _).nodup_iff.mpr inv.single
  case callers =>
    intro f b hf
    rw [past]
    exact inv.callers f b (same.mem_iff.mp hf)
  case calledOnce => exact past ▸ inv.calledOnce
  case calledStarted => exact fun f hf => step.starts_subset (inv.calledStarted f (past ▸ hf))
  case finishedOnce => exact past ▸ inv.finishedOnce
  case done => exact fun f hf => inv.done_step step (past ▸ hf) fun h => .inl (works.mp h)
  case kept => exact inv.kept_step hw step

/-- Fetches may have been started and given up, but none was called or took its answer. -/
theorem Told.others (inv : w.Told) (hw : w.Reachable) (step : Step w w') {n : Note α}
    (past : w'.past = n :: w.past) (called : n.deed.called? = none) (answer : n.deed.answer? = none)
    (fewer : w'.cache.underway.Subperm
      ((Cache.starts n.events).map (·, false) ++ w.cache.underway)) : w'.Told := by
  have calledSame := called_uncalled past called
  have finishedSame := finished_unanswered past answer
  have once := (hw.leads (.single step)).starts_nodup
  rw [starts_booked past] at once
  obtain ⟨newOnce, -, apart⟩ := List.nodup_append.mp once
  have known {f : FetchId} (hf : f ∈ w.cache.underway.map Prod.fst) : f ∈ w.starts :=
    (hw.started_of_works (mem_underway.mp hf)).1
  have among {f : FetchId} {b : Bool} (hf : (f, b) ∈ w'.cache.underway) :
      f ∈ Cache.starts n.events ∧ b = false ∨ (f, b) ∈ w.cache.underway := by
    refine (List.mem_append.mp (fewer.subset hf)).imp_left fun new => ?_
    obtain ⟨f', begun, same⟩ := List.mem_map.mp new
    obtain ⟨rfl, rfl⟩ := Prod.mk.inj same
    exact ⟨begun, rfl⟩
  constructor
  case single =>
    obtain ⟨l, order, part⟩ := fewer
    have part := part.map Prod.fst
    rw [List.map_append, List.map_map, show Prod.fst ∘ (·, false) = id from rfl, List.map_id]
      at part
    refine (order.map _).nodup_iff.mp (.sublist part (List.nodup_append.mpr ⟨newOnce, inv.single, ?_⟩))
    exact fun f hf f' hf' => apart f hf f' (known hf')
  case callers =>
    intro f b hf
    rw [calledSame]
    rcases among hf with ⟨new, rfl⟩ | old
    · have uncalled : f ∉ Cache.called w.past := fun hc => apart f new f (inv.calledStarted f hc) rfl
      simp [uncalled]
    · exact inv.callers f b old
  case calledOnce => exact calledSame ▸ inv.calledOnce
  case calledStarted => exact fun f hf => step.starts_subset (inv.calledStarted f (calledSame ▸ hf))
  case finishedOnce => exact finishedSame ▸ inv.finishedOnce
  case done =>
    intro f hf
    refine inv.done_step step (finishedSame ▸ hf) fun works => ?_
    obtain ⟨⟨f, b⟩, listed, rfl⟩ := List.mem_map.mp (mem_underway.mpr works)
    rcases among listed with ⟨new, -⟩ | old
    · exact .inr fun started => apart f new f started rfl
    · exact .inl (mem_underway.mp (List.mem_map_of_mem old))
  case kept => exact inv.kept_step hw step

/-- A fetch called its producer. -/
theorem Told.calls (inv : w.Told) (hw : w.Reachable) (step : Step w w') {n : Note α}
    {rest : List (FetchId × Bool)} (past : w'.past = n :: w.past) (called : n.deed.called? = some f)
    (answer : n.deed.answer? = none) (quiet : Cache.starts n.events = [])
    (before : w.cache.underway.Perm ((f, false) :: rest))
    (after : w'.cache.underway.Perm ((f, true) :: rest)) : w'.Told := by
  have starts := starts_quiet past quiet
  have finishedSame := finished_unanswered past answer
  have calledNow : Cache.called w'.past = f :: Cache.called w.past := by
    rw [past, called_cons, called]
    rfl
  have same : (w'.cache.underway.map Prod.fst).Perm (w.cache.underway.map Prod.fst) :=
    (after.map Prod.fst).trans (before.map Prod.fst).symm
  have works {f : FetchId} : w'.cache.Works f ↔ w.cache.Works f := by
    rw [← mem_underway, ← mem_underway, same.mem_iff]
  have own : (f, false) ∈ w.cache.underway := before.mem_iff.mpr (List.mem_cons_self ..)
  have alone : f ∉ rest.map Prod.fst :=
    (List.nodup_cons.mp ((before.map Prod.fst).nodup_iff.mp inv.single)).1
  have uncalled : f ∉ Cache.called w.past := fun hc =>
    Bool.false_ne_true ((inv.callers f false own).mpr hc)
  constructor
  case single => exact same.nodup_iff.mpr inv.single
  case callers =>
    intro f' b hf
    rw [calledNow]
    rcases List.mem_cons.mp (after.mem_iff.mp hf) with same | other
    · obtain ⟨rfl, rfl⟩ := Prod.mk.inj same
      simp
    · have differs : f' ≠ f := fun same => alone (same ▸ List.mem_map_of_mem other)
      rw [inv.callers f' b (before.mem_iff.mpr (List.mem_cons_of_mem _ other)), List.mem_cons,
        or_iff_right differs]
  case calledOnce =>
    rw [calledNow]
    exact List.nodup_cons.mpr ⟨uncalled, inv.calledOnce⟩
  case calledStarted =>
    rw [calledNow, starts]
    refine List.forall_mem_cons.mpr ⟨?_, inv.calledStarted⟩
    exact (hw.started_of_works (mem_underway.mp (List.mem_map_of_mem own))).1
  case finishedOnce => exact finishedSame ▸ inv.finishedOnce
  case done => exact fun f' hf => inv.done_step step (finishedSame ▸ hf) fun h => .inl (works.mp h)
  case kept => exact inv.kept_step hw step

/-- A fetch took its answer, which it had waited for or had been given up before. -/
theorem Told.takes (inv : w.Told) (hw : w.Reachable) (step : Step w w') {n : Note α}
    (past : w'.past = n :: w.past) (called : n.deed.called? = none)
    (took : n.deed.finished? = some f) (fewer : w'.cache.underway.Subperm w.cache.underway)
    (started : f ∈ w.starts) (gone : ¬ w'.cache.Works f)
    (why : f ∈ Cache.called w.past ∨ GivenUp w.past f) (first : f ∉ finished w.past) : w'.Told := by
  have calledSame := called_uncalled past called
  have finishedNow : finished w'.past = f :: finished w.past := by
    rw [past, finished_cons, took]
    rfl
  constructor
  case single =>
    obtain ⟨l, order, part⟩ := fewer
    exact (order.map _).nodup_iff.mp (inv.single.sublist (part.map _))
  case callers =>
    intro f b hf
    rw [calledSame]
    exact inv.callers f b (fewer.subset hf)
  case calledOnce => exact calledSame ▸ inv.calledOnce
  case calledStarted => exact fun f hf => step.starts_subset (inv.calledStarted f (calledSame ▸ hf))
  case finishedOnce =>
    rw [finishedNow]
    exact List.nodup_cons.mpr ⟨first, inv.finishedOnce⟩
  case done =>
    rw [finishedNow]
    refine List.forall_mem_cons.mpr ⟨⟨step.starts_subset started, gone, ?_⟩, fun f hf => ?_⟩
    · exact why.imp (fun hc => step.called_subset hc) fun given => given.later step.remembers
    · refine inv.done_step step hf fun works => .inl ?_
      exact mem_underway.mp (List.map_subset _ fewer.subset (mem_underway.mpr works))
  case kept => exact inv.kept_step hw step

/-- A deed that finished a fetch settled its generation. -/
theorem settled?_of_finished {deed : Deed α} (took : deed.finished? = some f) :
    deed.settled? = some f.2 := by
  cases deed with
  | run j answer =>
    cases answer with
    | none => exact nomatch took
    | some a =>
      obtain ⟨⟨f', b⟩, carries, rfl⟩ := Option.map_eq_some_iff.mp took
      exact Job.generation?_eq.mpr (Job.fetch?_eq.mp ⟨b, carries⟩).2
  | straggle k g a =>
    obtain rfl := Option.some.inj took
    rfl
  | _ => exact nomatch took

theorem Told.step (inv : w.Told) (hw : w.Reachable) (step : Step w w') : w'.Told := by
  rcases step.counted hw with ⟨past, -, same⟩ | ⟨n, past, accounts⟩
  · exact inv.silent hw step past same
  cases accounts.moves with
  | calls called answer quiet before after =>
    exact inv.calls hw step past called answer quiet before after
  | @finishes f called took quiet before =>
    have own : (f, true) ∈ w.cache.underway := before.mem_iff.mpr (List.mem_cons_self ..)
    have works : w.cache.Works f := mem_underway.mp (List.mem_map_of_mem own)
    have fewer : w'.cache.underway.Subperm w.cache.underway :=
      (List.sublist_cons_self ..).subperm.trans before.symm.subperm
    refine inv.takes hw step past called took fewer (hw.started_of_works works).1
      (fun still => ?_) (.inl ((inv.callers f true own).mp rfl)) fun again => (inv.done f again).2.1 works
    have alone := (List.nodup_cons.mp ((before.map Prod.fst).nodup_iff.mp inv.single)).1
    exact alone (mem_underway.mpr still)
  | @straggles f called took quiet same begun given_up unsettled =>
    have idle : ¬ w.cache.Works f := fun ⟨_, j, listed, _, _, post⟩ =>
      given_up j listed (Job.generation?_eq.mpr post)
    have first : f ∉ finished w.past := fun again => by
      obtain ⟨n, booked, took⟩ := List.mem_filterMap.mp again
      exact unsettled n booked (settled?_of_finished took)
    have started : f ∈ w.starts := mem_starts.mpr begun
    have given : GivenUp w.past f := ((inv.kept f started).resolve_left idle).resolve_left first
    refine inv.takes hw step past called took (same ▸ .refl _) started (fun still => idle ?_)
      (.inr given) first
    rwa [← mem_underway, same, mem_underway] at still
  | others called answer fewer => exact inv.others hw step past called answer fewer

theorem Reachable.told (hw : w.Reachable) : w.Told := by
  obtain ⟨grace, now, h⟩ := hw
  induction h with
  | refl =>
    exact ⟨.nil, fun f b hf => (List.not_mem_nil hf).elim, .nil, fun f hf => (List.not_mem_nil hf).elim,
      .nil, fun f hf => (List.not_mem_nil hf).elim, fun f hf => (List.not_mem_nil hf).elim⟩
  | tail before step ih => exact ih.step ⟨grace, now, before⟩ step

/-- A fetch that was given up before it called its producer never calls it. -/
theorem Reachable.spurned (hw : w.Reachable) : ∀ older, older <:+ w.past → ∀ f, GivenUp older f →
    f ∉ called older → f ∉ called w.past := by
  obtain ⟨grace, now, h⟩ := hw
  induction h with
  | refl =>
    intro older earlier f given uncalled
    obtain rfl : older = [] := List.suffix_nil.mp earlier
    exact uncalled
  | @tail w w' before step ih =>
    have hw : w.Reachable := ⟨grace, now, before⟩
    intro older earlier f given uncalled
    rcases step.counted hw with ⟨past, -, -⟩ | ⟨n, past, accounts⟩
    · rw [past] at earlier ⊢
      exact ih older earlier f given uncalled
    · rw [past] at earlier ⊢
      rcases List.suffix_cons_iff.mp earlier with rfl | earlier
      · exact uncalled
      · rw [called_cons]
        intro hc
        rcases List.mem_append.mp hc with now | before
        · have works := accounts.works_of_called (Option.mem_toList.mp now)
          exact (hw.started_of_works works).2 (given.later earlier)
        · exact ih older earlier f given uncalled before

end Course

end TaskWatch.Cache
