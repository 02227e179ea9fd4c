import TaskWatch.Proofs.Cache.Shared

/-! What a party does with a cache that it shares.

    What the first party does with the shared cache it might as well do with its own: the answers are the
    same, and the shared cache is shuffled from the two still. The other party's cache is not touched.
    Numbers are given out as they are needed, so the tie of the first party grows. -/

namespace TaskWatch.Cache.Shared

variable {α : Type} {P : Parties} {T₁ T₂ : Tie} {c c₁ c₂ : Cache α} {k : Key} {s s₁ : Slot α}
  {now : Time.Instant} {t : Nat}

/-! ### Fetches and timers -/

theorem launch (h : Shared P T₁ T₂ c c₁ c₂) (now : Time.Instant) (t : Nat) (own : P.first.keys k)
    (producer : P.first.producers s.producer) (like : s.Like T₁ s₁) :
    ∃ T, T₁.Within T ∧
      Shared P T T₂ (c.launch now k s) (c₁.launch (now.onTurn t) k s₁) c₂ := by
  obtain ⟨T, le, generation, numbered⟩ := h.numbered
  have calls : Duty.Like P.first T (.call c.nextNumber s.producer)
      (.call c₁.nextNumber s₁.producer) := like.producer ▸ .call generation producer
  obtain ⟨T', le', job, spawned⟩ := (numbered.count _ _).spawn now t calls own
    now.elapsed
  have flying := ((like.mono (le.trans le')).flying (le'.number _ _ generation) job).publish
    Entry.begin
  exact ⟨T', le.trans le', (spawned.setSlot own flying producer).report _ _⟩

theorem startFetch (h : Shared P T₁ T₂ c c₁ c₂) (now : Time.Instant) (t : Nat)
    (own : P.first.keys k) (supersede : Bool) :
    ∃ T, T₁.Within T ∧
      Shared P T T₂ (c.startFetch now k supersede).1
        (c₁.startFetch (now.onTurn t) k supersede).1 c₂ ∧
      (c.startFetch now k supersede).2 = (c₁.startFetch (now.onTurn t) k supersede).2 := by
  rcases h.cases own with ⟨vacant, vacant₁⟩ | ⟨s, s₁, there, there₁, producer, like⟩
  · rw [startFetch_vacant vacant, startFetch_vacant vacant₁]
    exact ⟨T₁, .refl T₁, h, rfl⟩
  · have flights := like.inFlight
    generalize flying : s.inFlight = flight, flying₁ : s₁.inFlight = flight₁ at flights
    cases flights with
    | none =>
      rw [startFetch_idle there flying, startFetch_idle there₁ flying₁]
      obtain ⟨T, le, launched⟩ := h.launch now t own producer like
      exact ⟨T, le, launched, rfl⟩
    | @some f f₁ tied =>
      cases supersede with
      | false =>
        rw [startFetch_joined there flying, startFetch_joined there₁ flying₁]
        exact ⟨T₁, .refl T₁, h, rfl⟩
      | true =>
        rw [startFetch_superseding there flying, startFetch_superseding there₁ flying₁]
        obtain ⟨T, le, launched⟩ := ((h.abort now t tied.job).report
          (.superseding k f.generation) (.superseding k f₁.generation)).launch
          now t own producer like
        exact ⟨T, le, launched, rfl⟩

theorem stopTimer (h : Shared P T₁ T₂ c c₁ c₂) (now : Time.Instant) (t : Nat) (k : Key)
    {timer timer₁ : Option Timer} (like : Option.Rel (Timer.Like T₁) timer timer₁) :
    Shared P T₁ T₂ (c.stopTimer now k timer) (c₁.stopTimer (now.onTurn t) k timer₁) c₂ := by
  cases like with
  | none => exact h
  | some tied => exact (h.abort now t tied.job).report _ _

theorem reschedule (h : Shared P T₁ T₂ c c₁ c₂) (now : Time.Instant) (t : Nat) (own : P.first.keys k) :
    ∃ T, T₁.Within T ∧
      Shared P T T₂ (c.reschedule now k) (c₁.reschedule (now.onTurn t) k) c₂ := by
  rcases h.cases own with ⟨vacant, vacant₁⟩ | ⟨s, s₁, there, there₁, producer, like⟩
  · rw [reschedule_vacant vacant, reschedule_vacant vacant₁]
    exact ⟨T₁, .refl T₁, h⟩
  · have stopped := h.stopTimer now t k like.timer
    have periods : s.timer.map Timer.period = s₁.timer.map Timer.period :=
      rel_map_eq like.timer fun _ _ timers => timers.period
    rw [reschedule_eq there, reschedule_eq there₁, like.period?, periods]
    split
    · exact ⟨T₁, .refl T₁, h⟩
    · cases s₁.period? with
      | none => exact ⟨T₁, .refl T₁, stopped.setSlot own like.stopped producer⟩
      | some period =>
        obtain ⟨T, le, job, spawned⟩ := stopped.spawn now t (.poll period) own
          (now.elapsed + period)
        exact ⟨T, le, (spawned.setSlot own ((like.mono le).timed period job) producer).report _ _⟩

theorem scheduledFetch (h : Shared P T₁ T₂ c c₁ c₂) (now : Time.Instant) (t : Nat)
    (own : P.first.keys k) :
    ∃ T, T₁.Within T ∧
      Shared P T T₂ (c.scheduledFetch now k) (c₁.scheduledFetch (now.onTurn t) k) c₂ := by
  obtain ⟨T, le, started, done⟩ := h.startFetch now t own false
  unfold Cache.scheduledFetch
  dsimp only
  rw [done]
  split
  · exact ⟨T, le, started⟩
  · exact ⟨T, le, started.report _ _⟩

theorem repeated (own : P.first.keys k) : ∀ (n : Nat) {T₁ : Tie} {c c₁ : Cache α},
    Shared P T₁ T₂ c c₁ c₂ → ∃ T, T₁.Within T ∧
      Shared P T T₂ (repeated (Cache.scheduledFetch now k) n c)
        (Cache.repeated (Cache.scheduledFetch (now.onTurn t) k) n c₁) c₂
  | 0, T₁, _, _, h => ⟨T₁, .refl T₁, h⟩
  | n + 1, _, _, _, h => by
    obtain ⟨T, le, scheduled⟩ := h.scheduledFetch now t own
    obtain ⟨T', le', done⟩ := repeated own n scheduled
    exact ⟨T', le.trans le', done⟩

/-- A timer of the first party runs. -/
theorem tick (h : Shared P T₁ T₂ c c₁ c₂) (now : Time.Instant) (t : Nat) {j j₁ : Job}
    (like : j.Like P.first T₁ j₁) (timer : j.isTimer = true) (period : Nat) :
    ∃ T, T₁.Within T ∧
      Shared P T T₂ (c.tick now j period) (c₁.tick (now.onTurn t) j₁ period) c₂ := by
  obtain ⟨number₁, key₁, duty₁, due₁, turn₁⟩ := j₁
  obtain rfl : j.key = key₁ := like.key
  obtain rfl : j.due = due₁ := like.due
  have moved (due : Nat) : Shared P T₁ T₂
      { c with agenda := c.agenda.remove j.number ++ [{ j with due := some due, turn := now.turn }] }
      { c₁ with agenda := c₁.agenda.remove number₁ ++
        [{ number := number₁, key := j.key, duty := duty₁, due := some due, turn := t }] } c₂ :=
    { h with agenda := (h.remove like.number).snoc { like with due := rfl } }
  exact repeated (like.own timer) _ (moved _)

/-! ### Results -/

/-- The result of a fetch of the first party is entered in both caches, or dropped by both. -/
theorem settle (h : Shared P T₁ T₂ c c₁ c₂) {g g₁ : Nat} (tied : T₁.number g g₁) (k : Key)
    (result : Except String α) :
    Shared P T₁ T₂ (c.settle now k g result) (c₁.settle (now.onTurn t) k g₁ result) c₂ := by
  unfold Cache.settle
  rw [h.abandoned.1]
  split
  · exact h
  · have finds := h.finds k
    unfold commit
    generalize c.slots.find? k = found, c₁.slots.find? k = found₁, c₂.slots.find? k = found₂ at finds
    cases finds with
    | none => exact h.report _ _
    | @first s s₁ own producer like =>
      have current : s.inFlight.any (fun f => f.generation == g) =
          s₁.inFlight.any (fun f => f.generation == g₁) :=
        rel_any like.inFlight fun _ _ flights => h.numbers.beq_same flights.generation tied
      dsimp only
      rw [current]
      split
      · cases result with
        | ok a =>
          exact (h.setSlot own ((like.landed.marked false).publish (Entry.succeed now a))
            producer).report _ _
        | error m =>
          exact ((h.count _ _).report _ _).setSlot own (like.landed.publish (Entry.fail m))
            producer
      · exact (h.count _ _).report _ _
    | @second s s₂ other producer like =>
      -- a fetch of the other party is in flight, if any, and it has a number of its own
      have overtaken : s.inFlight.any (fun f => f.generation == g) = false :=
        (rel_any (q := fun _ => false) like.inFlight fun _ _ flights =>
          h.numbers.beq_apart tied flights.generation).trans (by cases s₂.inFlight <;> rfl)
      dsimp only
      rw [overtaken]
      exact (h.count _ id).report _ _

/-- An eviction of the first party is carried out in both caches, or in neither. -/
theorem collect (h : Shared P T₁ T₂ c c₁ c₂) (own : P.first.keys k) {token token₁ : Nat}
    (tied : T₁.number token token₁) :
    Shared P T₁ T₂ (c.collect k token) (c₁.collect k token₁) c₂ := by
  unfold Cache.collect
  rcases h.cases own with ⟨vacant, vacant₁⟩ | ⟨s, s₁, there, there₁, -, like⟩
  · rw [vacant, vacant₁]
    exact h
  · have pending : s.eviction.any (fun e => e.token == token) =
        s₁.eviction.any (fun e => e.token == token₁) :=
      rel_any like.eviction fun _ _ evictions => h.numbers.beq_same evictions.token tied
    rw [there, there₁]
    dsimp only
    rw [like.lonely, pending]
    split
    · exact h.evict own
    · exact h

end TaskWatch.Cache.Shared
