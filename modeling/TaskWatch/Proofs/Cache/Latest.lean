import TaskWatch.Proofs.Cache.Faithful

/-! The fetch started last wins.

    A result is entered only for the last fetch of its query that was ever started, whether or not the
    entry was dropped and made anew in between, and in whatever order fetches finish. Every other
    result leaves the cache as it was. -/

namespace TaskWatch.Cache

variable {α : Type} {k : Key}

/-- Of all fetches of the query that were ever started this is the last. -/
def Course.LastStarted (w : Course α) (k : Key) (g : Nat) : Prop :=
  g ∈ (w.history k).started ∧ ∀ x ∈ (w.history k).started, x ≤ g

/-- The fetch is in flight. -/
def Flying (c : Cache α) (k : Key) (g : Nat) : Prop :=
  ∃ s f, c.slots.find? k = some s ∧ s.inFlight = some f ∧ f.generation = g

/-- At most an answer was counted as discarded, and something was reported. -/
def Undisturbed (c c' : Cache α) : Prop :=
  ∃ n e, n ≤ 1 ∧
    c' = { c with stats := { c.stats with discarded := c.stats.discarded + n },
                  journal := e :: c.journal }

/-- A result is entered for the fetch in flight, and any other result disturbs nothing. -/
theorem commit_entered_or_undisturbed (c : Cache α) (now : Time.Instant) (k : Key) (g : Nat)
    (result : Except String α) :
    (c.Flying k g ∧ ∀ l, l ≠ k → (c.commit now k g result).slots.find? l = c.slots.find? l) ∨
      (¬ c.Flying k g ∧ c.Undisturbed (c.commit now k g result)) := by
  cases hs : c.slots.find? k with
  | none =>
    refine .inr ⟨fun ⟨s, _, there, _⟩ => ?_, 0, .orphaned k g, Nat.zero_le _, ?_⟩
    · exact nomatch hs.symm.trans there
    · rw [commit_vacant hs]
      rfl
  | some s =>
    by_cases current : s.inFlight.map Flight.generation = some g
    · obtain ⟨f, flying, rfl⟩ := Option.map_eq_some_iff.mp current
      refine .inl ⟨⟨s, f, hs, flying, rfl⟩, fun l hl => ?_⟩
      rw [commit_current hs flying]
      cases result with
      | ok a => exact (find?_setSlot c k l _).trans (if_neg hl)
      | error message => exact (find?_setSlot _ k l _).trans (if_neg hl)
    · refine .inr ⟨fun ⟨s', f, there, flying, hg⟩ => current ?_, 1, .overtaken k g, Nat.le_refl _, ?_⟩
      · obtain rfl := Option.some.inj (hs.symm.trans there)
        rw [flying, Option.map_some, hg]
      · rw [commit_overtaken hs current]
        rfl

namespace Course

variable {w : Course α} {g : Nat}

/-- What is in flight is what the history says. -/
theorem Reachable.flying_iff (hw : w.Reachable) :
    w.cache.Flying k g ↔ (w.history k).flight? = some g := by
  constructor
  · rintro ⟨s, f, there, hf, rfl⟩
    exact hw.faithful.flying there hf
  · intro h
    have flight := hw.faithful.flight.trans h
    obtain ⟨f, found, hg⟩ := Option.map_eq_some_iff.mp flight
    obtain ⟨s, there, hf⟩ := Option.bind_eq_some_iff.mp found
    exact ⟨s, f, there, hf, hg⟩

/-- What is in flight is the last fetch that was started. -/
theorem Reachable.lastStarted (hw : w.Reachable) (flying : w.cache.Flying k g) :
    w.LastStarted k g :=
  History.started_of_flight hw.faithful.orderly (hw.flying_iff.mp flying)

end Course

/-- In every reachable course a result changes an entry only if it belongs to the last fetch of that
    query that was ever started; every other result changes nothing but a count. Fetches are started
    in the order of their generations, and they settle in that order too: once one has settled, the
    result of one started before disturbs nothing. -/
theorem last_started_wins {w : Course α} (hw : w.Reachable) (now : Time.Instant) (k : Key) (g : Nat)
    (result : Except String α) :
    ((w.LastStarted k g ∧
        ∀ l, l ≠ k → (w.cache.commit now k g result).slots.find? l = w.cache.slots.find? l) ∨
      w.cache.Undisturbed (w.cache.commit now k g result)) ∧
    (¬ w.LastStarted k g → w.cache.Undisturbed (w.cache.commit now k g result)) ∧
    (∀ x ∈ (w.history k).settled, g ≤ x → w.cache.Undisturbed (w.cache.commit now k g result)) ∧
    (w.history k).started.Pairwise (· > ·) ∧ (w.history k).settled.Pairwise (· > ·) := by
  have orderly : (w.history k).Orderly := hw.faithful.orderly
  have dropped (h : ¬ w.cache.Flying k g) : w.cache.Undisturbed (w.cache.commit now k g result) :=
    (commit_entered_or_undisturbed w.cache now k g result).elim (fun e => (h e.1).elim) (·.2)
  refine ⟨?_, fun older => dropped fun flying => older (hw.lastStarted flying), fun x hx hg => ?_,
    History.started_descending orderly, History.settled_descending orderly⟩
  · exact (commit_entered_or_undisturbed w.cache now k g result).imp
      (fun e => ⟨hw.lastStarted e.1, e.2⟩) (·.2)
  · refine dropped fun flying => ?_
    have := History.settled_lt_flight orderly (hw.flying_iff.mp flying) x hx
    omega

/-- A fetch that was superseded comes to nothing. -/
theorem superseded_wins_nothing :
    let w : Course Nat := .played 0 [.subscribe (.single "tasks") 0 {}, .refetch (.single "tasks")]
    (w.history (.single "tasks")).started = [3, 2] ∧
      w.cache.Undisturbed (w.cache.commit w.now (.single "tasks") 2 (.ok 7)) := by
  intro w
  have older : ¬ w.LastStarted (.single "tasks") 2 :=
    fun last => absurd (last.2 3 (by decide)) (by decide)
  refine ⟨by decide, ?_⟩
  exact (last_started_wins (Course.reachable_played _ _) w.now _ 2 (.ok 7)).2.1 older

end TaskWatch.Cache
