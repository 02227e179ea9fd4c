import TaskWatch.Cache.Supply

/-! What the small operations do to a cache, part by part.

    Giving a job up touches the agenda and nothing else. Starting a fetch, putting a timer in line and
    entering a result touch the slot of one query; `find?_setSlot` and its kin say what is found there
    afterwards, and that every other query keeps its slot. -/

namespace TaskWatch.Cache

variable {α : Type} {now : Time.Instant} {k : Key} {s : Slot α}

@[simp] theorem find?_setSlot (c : Cache α) (k l : Key) (s : Slot α) :
    (c.setSlot k s).slots.find? l = if l = k then some s else c.slots.find? l :=
  Table.find?_insert c.slots k l s

theorem find?_setSlot_self (c : Cache α) (k : Key) (s : Slot α) :
    (c.setSlot k s).slots.find? k = some s := by
  simp

/-- The slot of a query that somebody is the first to be interested in. -/
theorem find?_found (c : Cache α) (k : Key) (producer : Nat) (o : Options) (id : Nat) :
    (c.found k producer o id).slots.find? k =
      some { birth := id, entry := .idle k, producer, subscribers := [(id, o.interval)] } :=
  find?_setSlot_self _ _ _

/-- Giving a job up changes the agenda only. -/
theorem abort_eq (now : Time.Instant) (n : Nat) (c : Cache α) :
    c.abort now n = { c with agenda := (c.abort now n).agenda } := by
  unfold abort
  split
  · dsimp only
    split <;> rfl
  · rfl

theorem abort?_eq (now : Time.Instant) (n : Option Nat) (c : Cache α) :
    c.abort? now n = { c with agenda := (c.abort? now n).agenda } := by
  cases n with
  | none => rfl
  | some n => exact abort_eq now n c

/-- Giving up what is under way for slots changes the agenda only. -/
theorem abortAll_eq (now : Time.Instant) (s : Slot α) (c : Cache α) :
    c.abortAll now s = { c with agenda := (c.abortAll now s).agenda } := by
  unfold abortAll
  rw [abort?_eq, abort?_eq, abort?_eq]

theorem foldl_abortAll_eq (now : Time.Instant) : ∀ (slots : List (Slot α)) (c : Cache α),
    slots.foldl (fun c s => c.abortAll now s) c =
      { c with agenda := (slots.foldl (fun c s => c.abortAll now s) c).agenda }
  | [], _ => rfl
  | s :: rest, c => by
    rw [List.foldl_cons, foldl_abortAll_eq now rest, abortAll_eq]

/-- When every entry is dropped, what was published of each remains. -/
theorem dropEntries_eq (now : Time.Instant) (c : Cache α) :
    c.dropEntries now =
      { c with
        agenda := (c.dropEntries now).agenda
        slots := {}
        remains := (c.slots.rows.map Prod.snd).map Slot.remains ++ c.remains } := by
  unfold dropEntries
  dsimp only
  rw [foldl_abortAll_eq]

/-- Starting a fetch of a query without a slot does nothing. -/
theorem startFetch_vacant {c : Cache α} (vacant : c.slots.find? k = none) (supersede : Bool) :
    c.startFetch now k supersede = (c, false) := by
  simp [startFetch, vacant]

/-- A fetch is started where none is in flight. -/
theorem startFetch_idle {c : Cache α} (there : c.slots.find? k = some s)
    (idle : s.inFlight = none) (supersede : Bool) :
    c.startFetch now k supersede = (c.launch now k s, true) := by
  simp [startFetch, there, idle]

/-- A fetch gives way to one that is in flight. -/
theorem startFetch_joined {c : Cache α} {f : Flight} (there : c.slots.find? k = some s)
    (flying : s.inFlight = some f) : c.startFetch now k false = (c, false) := by
  simp [startFetch, there, flying]

/-- A fetch takes over from one that is in flight. -/
theorem startFetch_superseding {c : Cache α} {f : Flight} (there : c.slots.find? k = some s)
    (flying : s.inFlight = some f) :
    c.startFetch now k true =
      (((c.abort now f.job).report (.superseding k f.generation)).launch now k s, true) := by
  simp [startFetch, there, flying]

/-- A result is dropped if there is no entry for it. -/
theorem commit_vacant {c : Cache α} {g : Nat} {result : Except String α}
    (vacant : c.slots.find? k = none) :
    c.commit now k g result = c.report (.orphaned k g) := by
  simp [commit, vacant]

/-- The result of the fetch in flight is entered. -/
theorem commit_current {c : Cache α} {f : Flight} {result : Except String α}
    (there : c.slots.find? k = some s) (flying : s.inFlight = some f) :
    c.commit now k f.generation result = c.enter now k f.generation s result := by
  simp [commit, there, flying]

/-- The result of any other fetch is dropped. -/
theorem commit_overtaken {c : Cache α} {g : Nat} {result : Except String α}
    (there : c.slots.find? k = some s)
    (overtaken : s.inFlight.map Flight.generation ≠ some g) :
    c.commit now k g result =
      (c.count (fun t => { t with discarded := t.discarded + 1 })).report (.overtaken k g) := by
  cases hf : s.inFlight with
  | none => simp [commit, there, hf]
  | some f =>
    have : f.generation ≠ g := by simpa [hf] using overtaken
    simp [commit, there, hf, this]

/-- Stops the timer of an entry, if it has one. -/
def stopTimer (now : Time.Instant) (k : Key) (timer : Option Timer) (c : Cache α) : Cache α :=
  match timer with
  | some timer => (c.abort now timer.job).report (.timerCancelled k)
  | none => c

@[simp] theorem slots_stopTimer (timer : Option Timer) (c : Cache α) :
    (c.stopTimer now k timer).slots = c.slots := by
  cases timer with
  | none => rfl
  | some timer => rw [stopTimer, abort_eq]; rfl

@[simp] theorem sequence_stopTimer (timer : Option Timer) (c : Cache α) :
    (c.stopTimer now k timer).sequence = c.sequence := by
  cases timer with
  | none => rfl
  | some timer => rw [stopTimer, abort_eq]; rfl

/-- The timer of an entry is left alone, stopped, or started afresh. -/
theorem reschedule_eq {c : Cache α} (there : c.slots.find? k = some s) :
    c.reschedule now k =
      if s.period?.isSome && s.timer.map Timer.period == s.period? then c
      else match s.period? with
        | none => (c.stopTimer now k s.timer).setSlot k { s with timer := none }
        | some period =>
          let timer : Timer := { period, job := (c.stopTimer now k s.timer).nextJob }
          (((c.stopTimer now k s.timer).spawn now k (.poll period) (now.elapsed + period)).setSlot k
            { s with timer := some timer }).report (.timerScheduled k period) := by
  unfold reschedule
  simp only [there]
  rfl

theorem reschedule_vacant {c : Cache α} (vacant : c.slots.find? k = none) :
    c.reschedule now k = c := by
  simp [reschedule, vacant]

/-- Putting a timer in line changes nothing of the slots but the timer of the entry. -/
theorem find?_reschedule {c : Cache α} (now : Time.Instant) (there : c.slots.find? k = some s) :
    ∃ timer, ∀ l, (c.reschedule now k).slots.find? l =
      if l = k then some { s with timer } else c.slots.find? l := by
  rw [reschedule_eq there]
  split
  · refine ⟨s.timer, fun l => ?_⟩
    split
    · subst l
      exact there
    · rfl
  · cases s.period? with
    | none => exact ⟨none, fun l => by simp⟩
    | some period => exact ⟨some _, fun l => by simp [report, spawn]; rfl⟩

theorem sequence_reschedule (c : Cache α) : (c.reschedule now k).sequence = c.sequence := by
  cases hs : c.slots.find? k with
  | none => rw [reschedule_vacant hs]
  | some s =>
    rw [reschedule_eq hs]
    split
    · rfl
    · cases s.period? with
      | none => exact sequence_stopTimer s.timer c
      | some period => exact sequence_stopTimer s.timer c

end TaskWatch.Cache
