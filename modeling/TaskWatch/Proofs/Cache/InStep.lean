import Mathlib.Data.List.Forall2
import TaskWatch.Proofs.Cache.Basic

/-! Caches in step.

    Two caches are in step if they differ in nothing but what their fetches brought: the data, the
    errors and the dates of entries, the marks on them, and the counts. Only who subscribes to an entry
    that is there looks at any of that. Whatever else is done with both, and however their fetches
    end, they stay in step: they give out the same numbers, and have the same jobs under way. -/

namespace TaskWatch.Cache

variable {α : Type} {now : Time.Instant} {k : Key} {c c' : Cache α} {s s' : Slot α}

/-- The slot differs from the other in its entry and the mark on it only. -/
structure Slot.InStep (s s' : Slot α) : Prop where
  birth : s.birth = s'.birth
  version : s.version = s'.version
  producer : s.producer = s'.producer
  subscribers : s.subscribers = s'.subscribers
  inFlight : s.inFlight = s'.inFlight
  timer : s.timer = s'.timer
  eviction : s.eviction = s'.eviction

/-- The fetch whose end an event reports. -/
def Event.ends? : Event → Option (Key × Nat)
  | .committed k g => some (k, g)
  | .failed k g _ => some (k, g)
  | _ => none

/-- The events are the same, or report the end of the same fetch. -/
def Event.InStep (e e' : Event) : Prop := e = e' ∨ ∃ fetch, e.ends? = some fetch ∧ e'.ends? = some fetch

theorem Event.InStep.refl (e : Event) : e.InStep e := .inl rfl

/-- The cache without its entries, counts and reports: what is left are its numbers and its jobs. -/
def works (c : Cache α) : Cache α := { c with slots := {}, stats := {}, remains := [], journal := [] }

/-- The caches differ in what their fetches brought only. -/
structure InStep (c c' : Cache α) : Prop where
  works : c.works = c'.works
  slots : ∀ l, Option.Rel Slot.InStep (c.slots.find? l) (c'.slots.find? l)
  journal : List.Forall₂ Event.InStep c.journal c'.journal

/-- Whatever is published, the slots stay in step. -/
theorem Slot.InStep.publish (h : s.InStep s') (f f' : Entry α → Entry α) :
    (s.publish f).InStep (s'.publish f') :=
  { h with version := congrArg (· + 1) h.version }

theorem Slot.InStep.flying (h : s.InStep s') (flight : Option Flight) :
    Slot.InStep { s with producer := s'.producer, inFlight := flight }
      { s' with inFlight := flight } :=
  { h with producer := rfl, inFlight := rfl }

theorem Slot.InStep.marked (h : s.InStep s') :
    Slot.InStep { s with subscribers := s'.subscribers, invalidated := true }
      { s' with invalidated := true } :=
  { h with subscribers := rfl }

/-- However a fetch ends, its end is reported and published, and none is in flight then. -/
theorem enter_eq (now : Time.Instant) (k : Key) (g : Nat) (s : Slot α) (c : Cache α)
    (result : Except String α) :
    ∃ f e invalidated change, e.ends? = some (k, g) ∧
      c.enter now k g s result = ((c.count f).report e).setSlot k
        (({ s with inFlight := none, invalidated } : Slot α).publish change) := by
  cases result with
  | ok a => exact ⟨id, .committed k g, false, Entry.succeed now a, rfl, rfl⟩
  | error m =>
    exact ⟨fun t => { t with failures := t.failures + 1 }, .failed k g m, s.invalidated,
      Entry.fail m, rfl, rfl⟩

theorem works_abort (now : Time.Instant) (n : Nat) (c : Cache α) :
    (c.abort now n).works = c.works.abort now n := by
  unfold abort
  simp only [works]
  split
  · split <;> rfl
  · rfl

namespace InStep

theorem sequence (h : c.InStep c') : c.sequence = c'.sequence := (congrArg Cache.sequence h.works :)

theorem begun (h : c.InStep c') : c.begun = c'.begun := (congrArg Cache.begun h.works :)

theorem agenda (h : c.InStep c') : c.agenda = c'.agenda := (congrArg Cache.agenda h.works :)

theorem abandoned (h : c.InStep c') : c.abandoned = c'.abandoned :=
  (congrArg Cache.abandoned h.works :)

theorem refl (c : Cache α) : c.InStep c := by
  refine ⟨rfl, fun l => ?_, List.forall₂_same.mpr fun e _ => .refl e⟩
  cases c.slots.find? l with
  | none => exact .none
  | some s => exact .some ⟨rfl, rfl, rfl, rfl, rfl, rfl, rfl⟩

/-! ### The small operations -/

theorem report (h : c.InStep c') {e e' : Event} (same : e.InStep e') :
    (c.report e).InStep (c'.report e') :=
  ⟨h.works, h.slots, .cons same h.journal⟩

theorem count (h : c.InStep c') (f f' : Stats → Stats) : (c.count f).InStep (c'.count f') :=
  ⟨h.works, h.slots, h.journal⟩

theorem numbered (h : c.InStep c') : c.numbered.InStep c'.numbered :=
  ⟨congrArg Cache.numbered h.works, h.slots, h.journal⟩

theorem spawn (h : c.InStep c') (duty : Duty) (due : Nat) :
    (c.spawn now k duty due).InStep (c'.spawn now k duty due) :=
  ⟨congrArg (Cache.spawn now k duty due) h.works, h.slots, h.journal⟩

theorem abort (h : c.InStep c') (n : Nat) : (c.abort now n).InStep (c'.abort now n) := by
  refine ⟨?_, fun l => ?_, ?_⟩
  · rw [works_abort, works_abort, h.works]
  · rw [abort_eq now n c, abort_eq now n c']
    exact h.slots l
  · rw [abort_eq now n c, abort_eq now n c']
    exact h.journal

theorem setSlot (h : c.InStep c') (same : s.InStep s') :
    (c.setSlot k s).InStep (c'.setSlot k s') := by
  refine ⟨h.works, fun l => ?_, h.journal⟩
  rw [find?_setSlot, find?_setSlot]
  split
  · exact .some same
  · exact h.slots l

/-- The agenda changes in the same way. -/
theorem onAgenda (h : c.InStep c') (f : Agenda → Agenda) :
    InStep { c with agenda := f c.agenda } { c' with agenda := f c'.agenda } :=
  ⟨congrArg (fun c => { c with agenda := f c.agenda }) h.works, h.slots, h.journal⟩

theorem booked (h : c.InStep c') : InStep { c with journal := [] } { c' with journal := [] } :=
  ⟨h.works, h.slots, .nil⟩

/-- Both caches have a slot for the query, or neither does. -/
theorem cases (h : c.InStep c') (k : Key) :
    (c.slots.find? k = none ∧ c'.slots.find? k = none) ∨
      ∃ s s', c.slots.find? k = some s ∧ c'.slots.find? k = some s' ∧ s.InStep s' := by
  have slots := h.slots k
  generalize c.slots.find? k = found, c'.slots.find? k = found' at slots
  cases slots with
  | none => exact .inl ⟨rfl, rfl⟩
  | some same => exact .inr ⟨_, _, rfl, rfl, same⟩

/-! ### Fetches and timers -/

theorem launch (h : c.InStep c') (same : s.InStep s') :
    (c.launch now k s).InStep (c'.launch now k s') := by
  unfold Cache.launch
  dsimp only
  rw [same.producer, nextNumber, nextNumber, nextJob, nextJob, h.sequence, h.begun]
  exact (((h.numbered.count _ _).spawn _ _).setSlot ((same.flying _).publish _ _)).report (.refl _)

theorem startFetch (h : c.InStep c') (supersede : Bool) :
    (c.startFetch now k supersede).1.InStep (c'.startFetch now k supersede).1 ∧
      (c.startFetch now k supersede).2 = (c'.startFetch now k supersede).2 := by
  rcases h.cases k with ⟨vacant, vacant'⟩ | ⟨s, s', there, there', same⟩
  · rw [startFetch_vacant vacant, startFetch_vacant vacant']
    exact ⟨h, rfl⟩
  · cases flying : s.inFlight with
    | none =>
      rw [startFetch_idle there flying, startFetch_idle there' (same.inFlight ▸ flying)]
      exact ⟨h.launch same, rfl⟩
    | some f =>
      have flying' : s'.inFlight = some f := same.inFlight ▸ flying
      cases supersede with
      | false =>
        rw [startFetch_joined there flying, startFetch_joined there' flying']
        exact ⟨h, rfl⟩
      | true =>
        rw [startFetch_superseding there flying, startFetch_superseding there' flying']
        exact ⟨((h.abort f.job).report (.refl _)).launch same, rfl⟩

theorem scheduledFetch (h : c.InStep c') :
    (c.scheduledFetch now k).InStep (c'.scheduledFetch now k) := by
  have started : (c.startFetch now k false).1.InStep (c'.startFetch now k false).1 ∧
      (c.startFetch now k false).2 = (c'.startFetch now k false).2 := h.startFetch false
  obtain ⟨started, done⟩ := started
  unfold Cache.scheduledFetch
  dsimp only
  rw [done]
  split
  · exact started
  · exact started.report (.refl _)

theorem repeated {f : Cache α → Cache α} (hf : ∀ {c c'}, InStep c c' → InStep (f c) (f c')) :
    ∀ (n : Nat) {c c' : Cache α}, c.InStep c' → (repeated f n c).InStep (repeated f n c')
  | 0, _, _, h => h
  | n + 1, _, _, h => repeated hf n (hf h)

theorem tick (h : c.InStep c') (j : Job) (period : Nat) :
    (c.tick now j period).InStep (c'.tick now j period) :=
  repeated (fun h => h.scheduledFetch) _ (h.onAgenda fun agenda => agenda.remove j.number ++ [_])

/-- However a fetch ends in either, the caches stay in step. -/
theorem enter (h : c.InStep c') (same : s.InStep s') (g : Nat) (result result' : Except String α) :
    (c.enter now k g s result).InStep (c'.enter now k g s' result') := by
  obtain ⟨f, e, mark, change, ends, entered⟩ := enter_eq now k g s c result
  obtain ⟨f', e', mark', change', ends', entered'⟩ := enter_eq now k g s' c' result'
  have idle : Slot.InStep { s with inFlight := none, invalidated := mark }
      { s' with inFlight := none, invalidated := mark' } := { same with inFlight := rfl }
  rw [entered, entered']
  exact ((h.count f f').report (.inr ⟨_, ends, ends'⟩)).setSlot (idle.publish change change')

theorem settle (h : c.InStep c') (g : Nat) (result result' : Except String α) :
    (c.settle now k g result).InStep (c'.settle now k g result') := by
  unfold Cache.settle
  rw [h.abandoned]
  split
  · exact h
  · rcases h.cases k with ⟨vacant, vacant'⟩ | ⟨s, s', there, there', same⟩
    · rw [commit_vacant vacant, commit_vacant vacant']
      exact h.report (.refl _)
    · unfold commit
      simp only [there, there', same.inFlight]
      split
      · exact h.enter same g result result'
      · exact (h.count _ _).report (.refl _)

/-! ### Operations -/

theorem evict (h : c.InStep c') : (c.evict k).InStep (c'.evict k) := by
  refine ⟨h.works, fun l => ?_, .cons (.refl _) h.journal⟩
  rw [show (c.evict k).slots.find? l = _ from Table.find?_erase c.slots k l,
    show (c'.evict k).slots.find? l = _ from Table.find?_erase c'.slots k l]
  split
  · exact .none
  · exact h.slots l

theorem collect (h : c.InStep c') (token : Nat) :
    (c.collect k token).InStep (c'.collect k token) := by
  unfold Cache.collect
  rcases h.cases k with ⟨vacant, vacant'⟩ | ⟨s, s', there, there', same⟩
  · rw [vacant, vacant']
    exact h
  · rw [there, there']
    dsimp only
    rw [same.subscribers, same.eviction]
    split
    · exact h.evict
    · exact h

/-- To fetch anew is answered alike. -/
theorem refetch (h : c.InStep c') (now : Time.Instant) (k : Key) :
    (∃ d d', c.refetch now k = .ok d ∧ c'.refetch now k = .ok d' ∧ d.InStep d') ∨
      ∃ m, c.refetch now k = .error m ∧ c'.refetch now k = .error m := by
  unfold Cache.refetch
  rcases h.cases k with ⟨vacant, vacant'⟩ | ⟨s, s', there, there', same⟩
  · rw [vacant, vacant']
    exact .inr ⟨_, rfl, rfl⟩
  · rw [there, there']
    exact .inl ⟨_, _, rfl, rfl, (h.startFetch true).1⟩

theorem invalidate (h : c.InStep c') :
    (c.invalidate now k).1.InStep (c'.invalidate now k).1 := by
  unfold Cache.invalidate
  rcases h.cases k with ⟨vacant, vacant'⟩ | ⟨s, s', there, there', same⟩
  · rw [vacant, vacant']
    exact h
  · rw [there, there']
    dsimp only
    rw [same.subscribers]
    have marked := (h.setSlot (k := k) same.marked).report
      (.refl (.invalidated k !s'.subscribers.isEmpty))
    split
    · exact (marked.startFetch false).1
    · exact marked

end InStep

end TaskWatch.Cache
