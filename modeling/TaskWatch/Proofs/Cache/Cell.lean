import TaskWatch.Proofs.Cache.Change

/-! What concerns a single query.

    A cell is the slot of one query and its history, with the clock and the last number given out.
    Whatever happens to a cache, to one query only a few things can happen: somebody joins or leaves,
    a fetch starts, succeeds or fails, the entry is invalidated, evicted or cleared. These are the
    steps of a cell, and `Change.cell` and `Course.Effect.cell` say that there are no others. -/

namespace TaskWatch.Cache

open Relation

variable {α : Type}

/-- What concerns a single query. -/
structure Cell (α : Type) where
  now : Time.Instant
  slot : Option (Slot α)
  history : History α
  /-- The last number that was given to a subscriber, a fetch or an eviction of any query. -/
  sequence : Nat

/-- What can happen to a single query. -/
inductive Cell.Step (k : Key) : Cell α → Cell α → Prop
  | pass {c : Cell α} {now : Time.Instant} (later : c.now.elapsed ≤ now.elapsed) :
      Step k c { c with now }
  | number {c : Cell α} {n : Nat} (more : c.sequence ≤ n) : Step k c { c with sequence := n }
  /-- Somebody is the first to be interested, and the first fetch starts. -/
  | found {c : Cell α} (id producer job : Nat) (subscribers : List (Nat × Nat))
      (vacant : c.slot = none) (new : c.sequence < id) :
      Step k c { c with
        slot := some { birth := id, entry := (Entry.idle k).begin, version := 1, producer,
                       subscribers, inFlight := some { generation := id + 1, job } }
        history := (c.now, .started (id + 1)) :: c.history
        sequence := id + 1 }
  /-- Subscribers, the timer or a pending eviction change. -/
  | adjust {c : Cell α} {s : Slot α} (producer : Nat) (subscribers : List (Nat × Nat))
      (timer : Option Timer) (eviction : Option Eviction) (there : c.slot = some s) :
      Step k c { c with slot := some { s with producer, subscribers, timer, eviction } }
  | mark {c : Cell α} {s : Slot α} (there : c.slot = some s) :
      Step k c { c with
        slot := some { s with invalidated := true }
        history := (c.now, .invalidated) :: c.history }
  | start {c : Cell α} {s : Slot α} (g job : Nat) (there : c.slot = some s)
      (new : c.sequence < g) :
      Step k c { c with
        slot := some ({ s with inFlight := some { generation := g, job } }.publish Entry.begin)
        history := (c.now, .started g) :: c.history
        sequence := g }
  | succeed {c : Cell α} {s : Slot α} {f : Flight} (a : α) (there : c.slot = some s)
      (flying : s.inFlight = some f) :
      Step k c { c with
        slot := some ({ s with inFlight := none, invalidated := false }.publish
          (Entry.succeed c.now a))
        history := (c.now, .succeeded f.generation a) :: c.history }
  | fail {c : Cell α} {s : Slot α} {f : Flight} (message : String) (there : c.slot = some s)
      (flying : s.inFlight = some f) :
      Step k c { c with
        slot := some ({ s with inFlight := none }.publish (Entry.fail message))
        history := (c.now, .failed f.generation message) :: c.history }
  | evict {c : Cell α} {s : Slot α} (there : c.slot = some s) (lonely : s.subscribers = []) :
      Step k c { c with slot := none, history := (c.now, .evicted) :: c.history }
  | clear {c : Cell α} :
      Step k c { c with slot := none, history := (c.now, .cleared) :: c.history }

/-- What can follow in a cell. -/
def Cell.Leads (k : Key) : Cell α → Cell α → Prop := ReflTransGen (Cell.Step k)

/-- The cell of a query, given its history up to now, before the cache reported what it has. -/
def cell (now : Time.Instant) (answer : Option (Except String α)) (k : Key) (past : History α)
    (c : Cache α) : Cell α :=
  { now, slot := c.slots.find? k, history := signs now k answer c.journal ++ past,
    sequence := c.sequence }

/-- The cell of a query in a course. -/
def Course.cell (w : Course α) (k : Key) : Cell α :=
  { now := w.now, slot := w.cache.slots.find? k, history := w.history k,
    sequence := w.cache.sequence }

namespace Cell

variable {k : Key} {x y : Cell α}

theorem Step.chain (h : Cell.Step k x y) : Cell.Leads k x y := .single h

/-- Numbers only go up. -/
theorem Step.sequence (h : Cell.Step k x y) : x.sequence ≤ y.sequence := by
  cases h with
  | number more => exact more
  | found id producer job subscribers vacant new => exact Nat.le_succ_of_le (Nat.le_of_lt new)
  | start g job there new => exact Nat.le_of_lt new
  | _ => exact Nat.le_refl _

theorem Leads.sequence (h : Cell.Leads k x y) : x.sequence ≤ y.sequence := by
  induction h with
  | refl => exact Nat.le_refl _
  | tail _ step ih => exact Nat.le_trans ih step.sequence

/-- What was written is not written anew. -/
theorem Step.history (h : Cell.Step k x y) : x.history <:+ y.history := by
  cases h with
  | pass later => exact List.suffix_rfl
  | number more => exact List.suffix_rfl
  | adjust producer subscribers timer eviction there => exact List.suffix_rfl
  | _ => exact List.suffix_cons ..

theorem Leads.history (h : Cell.Leads k x y) : x.history <:+ y.history := by
  induction h with
  | refl => exact List.suffix_rfl
  | tail _ step ih => exact ih.trans step.history

/-- Past lives are not forgotten. -/
theorem Step.pastLives (h : Cell.Step k x y) :
    History.pastLives x.history ⊆ History.pastLives y.history := by
  cases h with
  | evict there lonely => exact List.subset_cons_self ..
  | clear => exact List.subset_cons_self ..
  | _ => exact fun _ hl => hl

theorem Leads.pastLives (h : Cell.Leads k x y) :
    History.pastLives x.history ⊆ History.pastLives y.history := by
  induction h with
  | refl => exact fun _ hl => hl
  | tail _ step ih => exact fun _ hl => step.pastLives (ih hl)

/-- What strayed is not forgotten either. -/
theorem Step.evictedFlights (h : Cell.Step k x y) :
    History.evictedFlights x.history ⊆ History.evictedFlights y.history := by
  cases h with
  | evict there lonely => exact List.subset_append_right ..
  | _ => exact fun _ hg => hg

theorem Leads.evictedFlights (h : Cell.Leads k x y) :
    History.evictedFlights x.history ⊆ History.evictedFlights y.history := by
  induction h with
  | refl => exact fun _ hg => hg
  | tail _ step ih => exact fun _ hg => step.evictedFlights (ih hg)

end Cell

variable {now : Time.Instant} {answer : Option (Except String α)} {k l : Key} {past : History α}
  {c c' : Cache α} {s : Slot α}

/-! ### What a change is to a cell -/

/-- What is reported adds its sign to the history, if it has one. -/
theorem signs_cons (e : Event) (events : List Event) :
    signs now k answer (e :: events) =
      (e.sign? k answer).toList.map (fun s => (now, s)) ++ signs now k answer events := by
  unfold signs
  rw [List.filterMap_cons]
  cases e.sign? k answer <;> rfl

/-- Cells agree if slots, signs and numbers do. -/
theorem cell_congr (slot : c'.slots.find? k = c.slots.find? k)
    (said : signs now k answer c'.journal = signs now k answer c.journal)
    (sequence : c'.sequence = c.sequence) :
    cell now answer k past c' = cell now answer k past c := by
  simp only [cell, slot, said, sequence]

theorem report_cell {e : Event} (plain : e.sign? k answer = none) :
    cell now answer k past (c.report e) = cell now answer k past c :=
  cell_congr rfl (by simp [report, signs_cons, plain]) rfl

theorem abort_cell (n : Nat) : cell now answer k past (c.abort now n) = cell now answer k past c := by
  rw [abort_eq]
  rfl

/-- Filing a slot under a query does nothing to the others. -/
theorem setSlot_cell_other (hl : l ≠ k) :
    cell now answer l past (c.setSlot k s) = cell now answer l past c :=
  cell_congr ((find?_setSlot c k l s).trans (if_neg hl)) rfl rfl

theorem numbered_cell :
    Cell.Leads l (cell now answer l past c) (cell now answer l past c.numbered) :=
  (Cell.Step.number (Nat.le_succ _)).chain

/-- A fetch that starts is reported under its generation. -/
theorem signs_launch : signs now k answer (c.launch now k s).journal =
    (now, .started c.nextNumber) :: signs now k answer c.journal := by
  simp [launch, report, setSlot, spawn, count, numbered, signs_cons, Event.sign?]

theorem launch_cell (there : c.slots.find? k = some s) :
    Cell.Leads l (cell now answer l past c) (cell now answer l past (c.launch now k s)) := by
  by_cases hl : l = k
  · subst l
    have step := Cell.Step.start (k := k) (c := cell now answer k past c) c.nextNumber c.nextJob
      there (Nat.lt_succ_self _)
    have slot : (c.launch now k s).slots.find? k = some
        (({ s with inFlight := some { generation := c.nextNumber, job := c.nextJob } }).publish
          Entry.begin) := find?_setSlot_self _ _ _
    rw [cell, cell, slot, signs_launch]
    exact step.chain
  · have quiet : Event.sign? l answer (.started k c.nextNumber) = none := by
      simp [Event.sign?, Ne.symm hl]
    unfold launch
    rw [report_cell quiet, setSlot_cell_other hl]
    exact (Cell.Step.number (Nat.le_succ _)).chain

theorem startFetch_cell {supersede : Bool} :
    Cell.Leads l (cell now answer l past c)
      (cell now answer l past (c.startFetch now k supersede).1) := by
  cases hs : c.slots.find? k with
  | none => rw [startFetch_vacant hs]; exact .refl
  | some s =>
    cases hf : s.inFlight with
    | none => rw [startFetch_idle hs hf]; exact launch_cell hs
    | some f =>
      cases supersede with
      | false => rw [startFetch_joined hs hf]; exact .refl
      | true =>
        rw [startFetch_superseding hs hf]
        have given_up : cell now answer l past
            ((c.abort now f.job).report (.superseding k f.generation)) = cell now answer l past c := by
          rw [report_cell rfl, abort_cell]
        rw [← given_up]
        refine launch_cell ?_
        rw [abort_eq]
        exact hs

/-- The first fetch of an entry starts as the entry is made. -/
theorem found_cell {producer : Nat} {o : Options} (vacant : c.slots.find? k = none) :
    Cell.Leads l (cell now answer l past c) (cell now answer l past
      ((c.numbered.found k producer o c.nextNumber).startFetch now k false).1) := by
  have made := find?_found c.numbered k producer o c.nextNumber
  rw [startFetch_idle made rfl]
  by_cases hl : l = k
  · subst l
    have step := Cell.Step.found (k := k) (c := cell now answer k past c) c.nextNumber
      producer c.nextJob [(c.nextNumber, o.interval)] vacant (Nat.lt_succ_self _)
    rw [cell, cell, signs_launch]
    unfold launch
    rw [report, find?_setSlot_self]
    exact step.chain
  · have other : cell now answer l past (c.numbered.found k producer o c.nextNumber) =
        cell now answer l past c.numbered := setSlot_cell_other hl
    have launched : Cell.Leads l (cell now answer l past c.numbered) _ := other ▸ launch_cell made
    exact numbered_cell.trans launched

/-- Only subscribers, the timer or a pending eviction of one entry change. -/
theorem adjust_cell (there : c.slots.find? k = some s) {producer : Nat}
    {subscribers : List (Nat × Nat)} {timer : Option Timer} {eviction : Option Eviction}
    (slots : ∀ l, c'.slots.find? l =
      if l = k then some { s with producer, subscribers, timer, eviction } else c.slots.find? l)
    (said : ∀ l, signs now l answer c'.journal = signs now l answer c.journal)
    (sequence : c'.sequence = c.sequence) :
    Cell.Leads l (cell now answer l past c) (cell now answer l past c') := by
  by_cases hl : l = k
  · subst l
    have step := Cell.Step.adjust (k := k) (c := cell now answer k past c) producer subscribers
      timer eviction there
    rw [cell, cell, (slots k).trans (if_pos rfl), said, sequence]
    exact step.chain
  · rw [cell_congr ((slots l).trans (if_neg hl)) (said l) sequence]
    exact .refl

theorem signs_stopTimer (timer : Option Timer) :
    signs now l answer (c.stopTimer now k timer).journal = signs now l answer c.journal := by
  cases timer with
  | none => rfl
  | some timer => rw [stopTimer, abort_eq]; simp [report, signs_cons, Event.sign?]

theorem signs_reschedule :
    signs now l answer (c.reschedule now k).journal = signs now l answer c.journal := by
  cases hs : c.slots.find? k with
  | none => rw [reschedule_vacant hs]
  | some s =>
    rw [reschedule_eq hs]
    split
    · rfl
    · have stopped : signs now l answer (c.stopTimer now k s.timer).journal = _ :=
        signs_stopTimer s.timer
      cases s.period? with
      | none => exact stopped
      | some period => simpa [report, setSlot, spawn, signs_cons, Event.sign?] using stopped

theorem reschedule_cell :
    Cell.Leads l (cell now answer l past c) (cell now answer l past (c.reschedule now k)) := by
  cases hs : c.slots.find? k with
  | none => rw [reschedule_vacant hs]; exact .refl
  | some s =>
    obtain ⟨timer, slots⟩ := find?_reschedule now hs
    exact adjust_cell hs slots (fun l => signs_reschedule) (sequence_reschedule c)

theorem signs_evict : signs now k answer (c.evict k).journal =
    (now, .evicted) :: signs now k answer c.journal := by
  simp [evict, report, count, signs_cons, Event.sign?]

theorem evict_cell (there : c.slots.find? k = some s) (lonely : s.subscribers = []) :
    Cell.Leads l (cell now answer l past c) (cell now answer l past (c.evict k)) := by
  have slots : (c.evict k).slots.find? l = if l = k then none else c.slots.find? l :=
    Table.find?_erase c.slots k l
  by_cases hl : l = k
  · subst l
    have step := Cell.Step.evict (k := k) (c := cell now answer k past c) there lonely
    rw [cell, cell, slots.trans (if_pos rfl), signs_evict]
    exact step.chain
  · have said : signs now l answer (c.evict k).journal = signs now l answer c.journal := by
      simp [evict, report, count, signs_cons, Event.sign?, Ne.symm hl]
    rw [cell_congr (slots.trans (if_neg hl)) said rfl]
    exact .refl

theorem signs_mark {subscribed : Bool} : signs now k answer
    ((c.setSlot k s).report (.invalidated k subscribed)).journal =
      (now, .invalidated) :: signs now k answer c.journal := by
  simp [report, setSlot, signs_cons, Event.sign?]

theorem mark_cell (there : c.slots.find? k = some s) {subscribed : Bool} :
    Cell.Leads l (cell now answer l past c) (cell now answer l past
      ((c.setSlot k { s with invalidated := true }).report (.invalidated k subscribed))) := by
  by_cases hl : l = k
  · subst l
    have step := Cell.Step.mark (k := k) (c := cell now answer k past c) there
    rw [cell, cell, signs_mark, report, find?_setSlot_self]
    exact step.chain
  · have quiet : Event.sign? l answer (.invalidated k subscribed) = none := by
      simp [Event.sign?, Ne.symm hl]
    rw [report_cell quiet, setSlot_cell_other hl]
    exact .refl

/-- The result of the fetch in flight is entered. -/
theorem enter_cell {f : Flight} {result : Except String α} (there : c.slots.find? k = some s)
    (flying : s.inFlight = some f) :
    Cell.Leads l (cell now (some result) l past c)
      (cell now (some result) l past (c.enter now k f.generation s result)) := by
  by_cases hl : l = k
  · subst l
    cases result with
    | ok a =>
      have step := Cell.Step.succeed (k := k) (c := cell now (some (.ok a)) k past c) a there flying
      have said : signs now k (some (.ok a)) (c.enter now k f.generation s (.ok a)).journal =
          (now, .succeeded f.generation a) :: signs now k (some (.ok a)) c.journal := by
        simp [enter, report, setSlot, signs_cons, Event.sign?]
      rw [cell, cell, said, enter, report, find?_setSlot_self]
      exact step.chain
    | error message =>
      let answer : Option (Except String α) := some (.error message)
      have step := Cell.Step.fail (k := k) (c := cell now answer k past c) message there flying
      have said : signs now k answer (c.enter now k f.generation s (.error message)).journal =
          (now, .failed f.generation message) :: signs now k answer c.journal := by
        simp [enter, report, setSlot, count, signs_cons, Event.sign?]
      rw [cell, cell, said, enter, find?_setSlot_self]
      exact step.chain
  · have same : cell now (some result) l past (c.enter now k f.generation s result) =
        cell now (some result) l past c := by
      cases result with
      | ok a =>
        rw [enter, report_cell (by simp [Event.sign?, Ne.symm hl]), setSlot_cell_other hl]
      | error message =>
        rw [enter, setSlot_cell_other hl, report_cell (by simp [Event.sign?, Ne.symm hl])]
        rfl
    rw [same]
    exact .refl

theorem commit_cell {g : Nat} {result : Except String α} :
    Cell.Leads l (cell now (some result) l past c)
      (cell now (some result) l past (c.commit now k g result)) := by
  cases hs : c.slots.find? k with
  | none => rw [commit_vacant hs, report_cell rfl]; exact .refl
  | some s =>
    by_cases current : s.inFlight.map Flight.generation = some g
    · obtain ⟨f, flying, rfl⟩ := Option.map_eq_some_iff.mp current
      rw [commit_current hs flying]
      exact enter_cell hs flying
    · rw [commit_overtaken hs current, report_cell rfl]
      exact .refl

theorem settle_cell {g : Nat} {result : Except String α} :
    Cell.Leads l (cell now (some result) l past c)
      (cell now (some result) l past (c.settle now k g result)) := by
  unfold settle
  split
  · exact .refl
  · exact commit_cell

theorem collect_cell {token : Nat} :
    Cell.Leads l (cell now answer l past c) (cell now answer l past (c.collect k token)) := by
  unfold collect
  cases hs : c.slots.find? k with
  | none => exact .refl
  | some s =>
    dsimp only
    split
    · rename_i expired
      exact evict_cell hs (List.isEmpty_iff.mp (Bool.and_eq_true_iff.mp expired).1)
    · exact .refl

/-- To a single query a change is a few of the things that can happen to it. -/
theorem Change.cell (h : Change now answer c c') :
    Cell.Leads k (Cache.cell now answer k past c) (Cache.cell now answer k past c') := by
  cases h with
  | number => exact numbered_cell
  | report plain => rw [report_cell (plain k answer)]; exact .refl
  | count => exact .refl
  | found alive valid vacant => exact found_cell vacant
  | join producer o there =>
    rw [abort?_eq]
    exact numbered_cell.trans (adjust_cell (c := c.numbered) there (find?_setSlot _ _ · _)
      (fun _ => rfl) rfl)
  | start => exact startFetch_cell
  | retime => exact reschedule_cell
  | leave left fewer there =>
    exact adjust_cell there (find?_setSlot _ _ · _) (fun _ => rfl) rfl
  | evict there lonely => exact evict_cell there lonely
  | linger there lonely =>
    exact adjust_cell there (find?_setSlot _ _ · _) (fun _ => rfl) rfl
  | mark subscribed there => exact mark_cell there
  | place listed duty => exact .refl
  | reply listed duty taken => subst taken; exact settle_cell (c := c.without _)
  | release listed duty => exact .refl
  | move listed duty => exact .refl
  | collect listed duty => exact collect_cell (c := c.without _)
  | straggle given_up taken => subst taken; exact settle_cell

theorem Changes.cell (h : Changes now answer c c') :
    Cell.Leads k (Cache.cell now answer k past c) (Cache.cell now answer k past c') := by
  induction h with
  | refl => exact .refl
  | tail _ change ih => exact ih.trans change.cell

/-! ### What a step of a course is to a cell -/

namespace Course

variable {w w' : Course α}

/-- At the beginning no query has a slot. -/
theorem fresh_vacant (grace : Nat) (now : Time.Instant) (k : Key) :
    (fresh grace now : Course α).cache.slots.find? k = none := rfl

/-- What the cache reported is in the book. -/
def Booked (w : Course α) : Prop := w.cache.journal = []

theorem Effect.booked (h : Effect w w') (booked : w.Booked) : w'.Booked := by
  cases h with
  | changed deed handles plain changes => rfl
  | dropped deed abandoned events said plain => rfl
  | answered waits calls => exact booked
  | passed now handles later => exact booked

theorem Leads.booked (h : w.Leads w') (booked : w.Booked) : w'.Booked := by
  induction h with
  | refl => exact booked
  | tail _ step ih => exact step.effect.booked ih

theorem Reachable.booked (hw : w.Reachable) : w.Booked := by
  obtain ⟨grace, now, h⟩ := hw
  exact h.booked rfl

/-- What is plain gives no sign. -/
theorem signs_plain : ∀ {events : List Event}, (∀ e ∈ events, e.Plain α) →
    signs now k answer events = []
  | [], _ => rfl
  | e :: rest, plain => by
    rw [signs_cons, plain e (List.mem_cons_self ..) k answer,
      signs_plain fun e he => plain e (List.mem_cons_of_mem _ he)]
    rfl

/-- To drop all entries clears the history of every query. -/
theorem history_dropped {deed : Deed α} {abandoned : Bool} {events : List Event} (booked : w.Booked)
    (said : deed.sign? = some .cleared) (plain : ∀ e ∈ events, e.Plain α) :
    (w.after deed { w.cache.dropEntries w.now with
      abandoned, journal := events ++ w.cache.journal }).history k =
        (w.now, .cleared) :: w.history k := by
  have quiet : signs w.now k deed.answer? (events ++ w.cache.journal) = [] := by
    rw [show w.cache.journal = [] from booked, List.append_nil]
    exact signs_plain plain
  simp only [after, history, List.flatMap_cons, Note.signs, said, quiet, List.append_nil]
  rfl

/-- The cell before a deed. -/
theorem cell_before (booked : w.Booked) (k : Key) :
    Cache.cell w.now answer k (w.history k) w.cache = w.cell k := by
  rw [Cache.cell, show w.cache.journal = [] from booked]
  rfl

/-- The cell after a deed that says nothing itself. -/
theorem cell_behind {deed : Deed α} (plain : deed.sign? = none) (c : Cache α)
    (handles : List (Option Handle)) (k : Key) :
    Cache.cell w.now deed.answer? k (w.history k) c =
      Course.cell { w.after deed c with handles } k := by
  simp [Course.cell, Cache.cell, after, history, Note.signs, plain]

/-- To a single query a step of a course is a few of the things that can happen to it. -/
theorem Effect.cell (h : Effect w w') (booked : w.Booked) : Cell.Leads k (w.cell k) (w'.cell k) := by
  cases h with
  | changed deed handles plain changes =>
    rw [← cell_before booked, ← cell_behind plain]
    exact changes.cell
  | dropped deed abandoned events said plain =>
    have behind : (w.after deed { w.cache.dropEntries w.now with
          abandoned, journal := events ++ w.cache.journal }).cell k =
        { w.cell k with slot := none, history := (w.now, .cleared) :: w.history k } := by
      rw [Course.cell, history_dropped booked said plain, dropEntries_eq]
      rfl
    rw [behind]
    exact Cell.Step.clear.chain
  | answered waits calls => exact .refl
  | passed now handles later => exact (Cell.Step.pass (c := w.cell k) later).chain

theorem Leads.cell (h : w.Leads w') (booked : w.Booked) : Cell.Leads k (w.cell k) (w'.cell k) := by
  induction h with
  | refl => exact .refl
  | tail before step ih => exact ih.trans (step.effect.cell (Leads.booked before booked))

end Course

end TaskWatch.Cache
