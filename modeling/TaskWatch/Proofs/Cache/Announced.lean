import TaskWatch.Proofs.Cache.Faithful
import TaskWatch.Proofs.Cache.Subscribe

/-! What is published of an entry shows in the fetch that is in flight.

    A change of an entry is published when a fetch of it is started and when the answer to the one in
    flight is entered. In both cases another fetch is in flight afterwards, or none: a fetch that is
    started has a generation of its own. So to tell whether anything was published while the cache
    worked on, it is enough to ask which fetch is in flight (`Slot.Announces`). -/

namespace TaskWatch.Cache

variable {α σ : Type} {now : Time.Instant} {k l : Key} {c c' : Cache α} {s s' : Slot α}

/-- The generation of the fetch in flight. -/
def Slot.generation? (s : Slot α) : Option Nat := s.inFlight.map Flight.generation

/-- The generation of the fetch of the query that is in flight. -/
def flight? (k : Key) (c : Cache α) : Option Nat := (c.slots.find? k).bind Slot.generation?

theorem flight?_there (there : c.slots.find? k = some s) : c.flight? k = s.generation? := by
  rw [flight?, there, Option.bind_some]

/-- The slot stays with its subscribers. Its entry is as it was, or something was published of it and
    another fetch is in flight than before, or none. -/
structure Slot.Announces (s s' : Slot α) : Prop where
  birth : s'.birth = s.birth
  subscribers : s'.subscribers = s.subscribers
  told : (s'.version = s.version ∧ s'.entry = s.entry ∧ s'.generation? = s.generation?) ∨
    (s.version < s'.version ∧ s'.generation? ≠ s.generation?)

theorem Slot.Announces.refl (s : Slot α) : s.Announces s := ⟨rfl, rfl, .inl ⟨rfl, rfl, rfl⟩⟩

/-- The slot of the query is still there, and all that was published of it can be told. -/
def Announced (k : Key) (s : Slot α) (c' : Cache α) : Prop :=
  ∃ s', c'.slots.find? k = some s' ∧ s.Announces s'

theorem Announced.of_slots (there : c.slots.find? k = some s) (same : c'.slots = c.slots) :
    Announced k s c' := ⟨s, by rw [same, there], .refl s⟩

/-- What becomes of the slot of one query is of no concern to the others. -/
theorem announced_setSlot (there : c.slots.find? l = some s)
    (own : ∀ s₁, l = k → c.slots.find? k = some s₁ → s₁.Announces s') :
    Announced l s (c.setSlot k s') := by
  rw [Announced, find?_setSlot]
  split
  · rename_i same
    exact ⟨s', rfl, own s same (same ▸ there)⟩
  · exact ⟨s, there, .refl s⟩

/-! ### Fetches -/

/-- No fetch in flight has a number that was not given out. -/
def Slot.Numbered (s : Slot α) (c : Cache α) : Prop := ∀ g, s.generation? = some g → g ≤ c.sequence

theorem announced_launch (there : c.slots.find? l = some s) (numbered : s.Numbered c)
    (there' : c.slots.find? k = some s') : Announced l s (c.launch now k s') := by
  refine announced_setSlot (c := (c.numbered.count _).spawn now k _ _) there fun s₁ own found => ?_
  have same : s' = s := Option.some.inj (there'.symm.trans (own ▸ there))
  have same' : s₁ = s' := Option.some.inj (found.symm.trans there')
  subst same same'
  refine ⟨rfl, rfl, .inr ⟨Nat.lt_succ_self _, fun again => ?_⟩⟩
  exact Nat.not_succ_le_self _ (numbered _ again.symm)

theorem announced_startFetch (now : Time.Instant) (k : Key) (supersede : Bool)
    (there : c.slots.find? l = some s) (numbered : s.Numbered c) : Announced l s (c.startFetch now k supersede).1 := by
  cases hs : c.slots.find? k with
  | none =>
    rw [startFetch_vacant hs]
    exact .of_slots there rfl
  | some s' =>
    cases hf : s'.inFlight with
    | none =>
      rw [startFetch_idle hs hf]
      exact announced_launch there numbered hs
    | some f =>
      cases supersede with
      | false =>
        rw [startFetch_joined hs hf]
        exact .of_slots there rfl
      | true =>
        rw [startFetch_superseding hs hf]
        have given_up : ((c.abort now f.job).report (.superseding k f.generation)).slots = c.slots ∧
            ((c.abort now f.job).report (.superseding k f.generation)).sequence = c.sequence := by
          rw [abort_eq]
          exact ⟨rfl, rfl⟩
        obtain ⟨slots, sequence⟩ := given_up
        exact announced_launch (slots ▸ there) (fun g flying => sequence ▸ numbered g flying)
          (slots ▸ hs)

theorem announced_refetch (there : c.slots.find? l = some s) (numbered : s.Numbered c)
    (done : c.refetch now k = .ok c') : Announced l s c' := by
  unfold refetch at done
  split at done
  · obtain rfl := Except.ok.inj done
    exact announced_startFetch now k true there numbered
  · simp at done

/-- The mark that data is stale is not published, but a fetch that is started with it is. -/
theorem announced_invalidate (there : c.slots.find? l = some s) (numbered : s.Numbered c) :
    Announced l s (c.invalidate now k).1 := by
  unfold invalidate
  cases hs : c.slots.find? k with
  | none => exact .of_slots there rfl
  | some s' =>
    obtain ⟨s₁, found, birth, subscribers, told⟩ :
        Announced l s (c.setSlot k { s' with invalidated := true }) :=
      announced_setSlot there fun s₁ _ found => by
        obtain rfl := Option.some.inj (found.symm.trans hs)
        exact ⟨rfl, rfl, .inl ⟨rfl, rfl, rfl⟩⟩
    dsimp only
    split
    · by_cases own : l = k
      · subst own
        obtain rfl := Option.some.inj (there.symm.trans hs)
        have marked := find?_setSlot_self c l { s with invalidated := true }
        obtain ⟨s₂, found₂, birth₂, subscribers₂, told₂⟩ := announced_startFetch now l false
          (c := (c.setSlot l { s with invalidated := true }).report (.invalidated l _))
          marked numbered
        exact ⟨s₂, found₂, birth₂, subscribers₂, told₂⟩
      · have other : (c.setSlot k { s' with invalidated := true }).slots.find? l = some s := by
          rw [find?_setSlot, if_neg own, there]
        exact announced_startFetch now k false
          (c := (c.setSlot k { s' with invalidated := true }).report (.invalidated k _)) other numbered
    · exact ⟨s₁, found, birth, subscribers, told⟩

/-! ### Jobs -/

theorem announced_settle {g : Nat} {result : Except String α} (there : c.slots.find? l = some s) :
    Announced l s (c.settle now k g result) := by
  unfold settle
  split
  · exact .of_slots there rfl
  · cases hs : c.slots.find? k with
    | none =>
      rw [commit_vacant hs]
      exact .of_slots there rfl
    | some s' =>
      by_cases current : s'.inFlight.map Flight.generation = some g
      · obtain ⟨f, flying, rfl⟩ := Option.map_eq_some_iff.mp current
        rw [commit_current hs flying]
        -- Once the answer is entered no fetch is in flight, whatever the answer was.
        have entered {s₁ s₂ : Slot α} (idle : s₂.inFlight = none) (birth : s₂.birth = s'.birth)
            (subscribers : s₂.subscribers = s'.subscribers) (version : s₂.version = s'.version + 1)
            (found : c.slots.find? k = some s₁) : s₁.Announces s₂ := by
          obtain rfl := Option.some.inj (found.symm.trans hs)
          refine ⟨birth, subscribers, .inr ⟨version ▸ Nat.lt_succ_self _, ?_⟩⟩
          rw [Slot.generation?, idle, Slot.generation?, flying]
          simp
        cases result with
        | ok a => exact announced_setSlot there fun s₁ _ found => entered rfl rfl rfl rfl found
        | error message =>
          exact announced_setSlot (c := (c.count _).report _) there fun s₁ _ found =>
            entered rfl rfl rfl rfl found
      · rw [commit_overtaken hs current]
        exact .of_slots there rfl

theorem announced_scheduledFetch (now : Time.Instant) (k : Key)
    (there : c.slots.find? l = some s) (numbered : s.Numbered c) :
    Announced l s (c.scheduledFetch now k) := by
  unfold scheduledFetch
  dsimp only
  split
  · exact announced_startFetch now k false there numbered
  · obtain ⟨s', found, announces⟩ := announced_startFetch now k false there numbered
    exact ⟨s', found, announces⟩

/-- After a scheduled fetch one is in flight, so that another does nothing. -/
theorem slots_scheduledFetch (now : Time.Instant)
    (again : (c.slots.find? k).all (·.inFlight.isSome) = true) :
    (c.scheduledFetch now k).slots = c.slots := by
  unfold scheduledFetch
  cases hs : c.slots.find? k with
  | none =>
    rw [startFetch_vacant hs]
    rfl
  | some s =>
    obtain ⟨f, flying⟩ := Option.isSome_iff_exists.mp (by simpa [hs] using again)
    rw [startFetch_joined hs flying]
    rfl

theorem flying_scheduledFetch (now : Time.Instant) (k : Key) (c : Cache α) :
    ((c.scheduledFetch now k).slots.find? k).all (·.inFlight.isSome) = true := by
  by_cases flying : (c.slots.find? k).all (·.inFlight.isSome) = true
  · rw [slots_scheduledFetch now flying, flying]
  · cases hs : c.slots.find? k with
    | none => simp [hs] at flying
    | some s =>
      have idle : s.inFlight = none := by simpa [hs] using flying
      unfold scheduledFetch
      rw [startFetch_idle hs idle]
      have launched : (c.launch now k s).slots.find? k = some _ := find?_setSlot_self ..
      simp [launched, Slot.publish]

theorem slots_repeated (n : Nat) (again : (c.slots.find? k).all (·.inFlight.isSome) = true) :
    (repeated (scheduledFetch now k) n c).slots = c.slots := by
  induction n generalizing c with
  | zero => rfl
  | succ n ih =>
    have same := slots_scheduledFetch now again
    rw [repeated, ih (same ▸ again), same]

/-- However many deadlines a timer has passed, one fetch is started at most. -/
theorem announced_repeated (n : Nat) (there : c.slots.find? l = some s) (numbered : s.Numbered c) :
    Announced l s (repeated (scheduledFetch now k) n c) := by
  cases n with
  | zero => exact .of_slots there rfl
  | succ n =>
    obtain ⟨s', found, announces⟩ := announced_scheduledFetch now k there numbered
    refine ⟨s', ?_, announces⟩
    rw [repeated, slots_repeated n (flying_scheduledFetch now k c), found]

theorem announced_collect {token : Nat} (there : c.slots.find? l = some s)
    (attended : s.subscribers ≠ []) : Announced l s (c.collect k token) := by
  unfold collect
  cases hs : c.slots.find? k with
  | none => exact .of_slots there rfl
  | some s' =>
    dsimp only
    split
    · rename_i expired
      have lonely := List.isEmpty_iff.mp (Bool.and_eq_true_iff.mp expired).1
      have other : l ≠ k := fun own =>
        attended (Option.some.inj (there.symm.trans (own ▸ hs)) ▸ lonely)
      have kept : (c.evict k).slots.find? l = if l = k then none else c.slots.find? l :=
        Table.find?_erase c.slots k l
      exact ⟨s, by rw [kept, if_neg other, there], .refl s⟩
    · exact .of_slots there rfl

/-- Whatever job runs, all that is published of a query with subscribers can be told. -/
theorem announced_runJob (supplier : Supplier σ α) (state : σ) (j : Job)
    (there : c.slots.find? l = some s) (numbered : s.Numbered c) (attended : s.subscribers ≠ []) :
    Announced l s (c.runJob supplier now j state).1 := by
  have there' : (c.without j).slots.find? l = some s := there
  unfold runJob
  cases j.duty with
  | call g producer => exact .of_slots there rfl
  | reply g producer call => exact announced_settle there'
  | release producer call => exact .of_slots there rfl
  | poll period => exact announced_repeated (c := { c with agenda := _ }) _ there numbered
  | collect token => exact announced_collect there' attended

/-- In a course no fetch is in flight whose number was not given out. -/
theorem Course.Reachable.numbered {w : Course α} (hw : w.Reachable)
    (there : w.cache.slots.find? k = some s) : s.Numbered w.cache := by
  intro g flying
  have faithful := hw.faithful (k := k)
  have held : s.inFlight.map Flight.generation = some g := flying
  have named : (w.cell k).history.flight? = some g := by
    rw [← faithful.flight, show (w.cell k).slot = some s from there, Option.bind_some, held]
  exact faithful.numbered g (History.started_of_flight faithful.orderly named).1

end TaskWatch.Cache
