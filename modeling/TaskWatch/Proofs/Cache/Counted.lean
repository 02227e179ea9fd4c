import Mathlib.Data.List.Perm.Subperm
import TaskWatch.Proofs.Cache.Held
import TaskWatch.Proofs.Cache.Work

/-! What is counted, and which fetches are under way.

    Counts tell what was reported: a fetch is counted as it starts, and again as it fails or as its
    answer is discarded, and a subscriber as it is served. A fetch is on the agenda under way from its
    start, first waiting to call its producer and then for the answer. `Counts` says both of an
    operation, and each operation has one lemma. `Course.Step.counted` tells from these what a step
    books, counts and has under way. -/

namespace TaskWatch.Cache

variable {α : Type} {now : Time.Instant} {k : Key} {c c' c'' : Cache α} {s : Slot α}

/-- A fetch is told by its query and its generation. -/
abbrev FetchId := Key × Nat

/-- How a fetch ends that takes its answer. -/
inductive Ending where
  /-- The answer was entered. -/
  | committed
  | failed
  /-- A later fetch had taken over. -/
  | discarded
  /-- The query had no entry. -/
  | orphaned
  deriving DecidableEq, Repr

namespace Event

/-- The fetch that was started. -/
def started? : Event → Option FetchId
  | .started k g => some (k, g)
  | _ => none

/-- The fetch that took its answer, and how it ended. -/
def ending? : Event → Option (Ending × FetchId)
  | .committed k g => some (.committed, k, g)
  | .failed k g _ => some (.failed, k, g)
  | .overtaken k g => some (.discarded, k, g)
  | .orphaned k g => some (.orphaned, k, g)
  | _ => none

end Event

/-- How many subscribers were served, in whatever way. -/
def Stats.served (t : Stats) : Nat := t.hits + t.misses + t.staleHits + t.joined

/-- The fetch that the job carries out, and whether its producer was called. -/
def Job.fetch? (j : Job) : Option (FetchId × Bool) :=
  match j.duty with
  | .call g _ => some ((j.key, g), false)
  | .reply g _ _ => some ((j.key, g), true)
  | _ => none

/-- The fetches under way, and whether the producer of each was called. -/
def underway (c : Cache α) : List (FetchId × Bool) := c.agenda.filterMap Job.fetch?

/-- The fetches that are reported as started. -/
def starts (events : List Event) : List FetchId := events.filterMap Event.started?

/-- The fetches that are reported as ended, and how. -/
def endings (events : List Event) : List (Ending × FetchId) := events.filterMap Event.ending?

/-- How many of the fetches ended in this way. -/
def tallied (e : Ending) (ended : List (Ending × FetchId)) : Nat := ended.countP (fun x => x.1 == e)

/-- So many subscribers were served, and these fetches ended. Counts went up by as much as was
    reported, and of the fetches under way only those are new that were reported as started. -/
def Counts (served : Nat) (ended : List (Ending × FetchId)) (c c' : Cache α) : Prop :=
  ∃ events, c'.journal = events ++ c.journal ∧ endings events = ended ∧
    c'.stats.served = c.stats.served + served ∧
    c'.stats.fetches = c.stats.fetches + (starts events).length ∧
    c'.stats.failures = c.stats.failures + tallied .failed ended ∧
    c'.stats.discarded = c.stats.discarded + tallied .discarded ended ∧
    c'.underway.Subperm ((starts events).map (·, false) ++ c.underway)

namespace Counts

variable {served served' : Nat} {ended ended' : List (Ending × FetchId)}

/-- Nothing was reported or counted, and nothing new is under way. -/
theorem silent (journal : c'.journal = c.journal) (stats : c'.stats = c.stats)
    (fewer : c'.underway.Subperm c.underway) : Counts 0 [] c c' :=
  ⟨[], journal, rfl, by rw [stats]; rfl, by rw [stats]; rfl, by rw [stats]; rfl, by rw [stats]; rfl,
    fewer⟩

theorem refl (c : Cache α) : Counts 0 [] c c := silent rfl rfl (.refl _)

theorem trans (h : Counts served ended c c') (h' : Counts served' ended' c' c'') :
    Counts (served + served') (ended' ++ ended) c c'' := by
  obtain ⟨events, journal, rfl, subscribed, fetches, failures, discarded, fewer⟩ := h
  obtain ⟨events', journal', rfl, subscribed', fetches', failures', discarded', fewer'⟩ := h'
  refine ⟨events' ++ events, ?_, List.filterMap_append, ?_, ?_, ?_, ?_, ?_⟩
  · rw [journal', journal, List.append_assoc]
  · omega
  · rw [fetches', fetches, starts, starts, starts, List.filterMap_append, List.length_append]
    omega
  · rw [failures', failures, tallied, tallied, tallied, List.countP_append]
    omega
  · rw [discarded', discarded, tallied, tallied, tallied, List.countP_append]
    omega
  · rw [starts, List.filterMap_append, List.map_append, List.append_assoc]
    exact fewer'.trans ((List.subperm_append_left _).mpr fewer)

/-- An event is reported that tells of no start and no end. -/
theorem report (c : Cache α) {e : Event} (quiet : e.started? = none) (endless : e.ending? = none) :
    Counts 0 [] c (c.report e) := by
  refine ⟨[e], rfl, ?_, rfl, ?_, rfl, rfl, ?_⟩
  · rw [endings, List.filterMap_cons, endless]
    rfl
  · rw [starts, List.filterMap_cons, quiet]
    rfl
  · rw [starts, List.filterMap_cons, quiet]
    exact .refl _

/-- A subscriber is counted. -/
theorem count (c : Cache α) {f : Stats → Stats} (served : (f c.stats).served = c.stats.served + 1)
    (fetches : (f c.stats).fetches = c.stats.fetches)
    (failures : (f c.stats).failures = c.stats.failures)
    (discarded : (f c.stats).discarded = c.stats.discarded) : Counts 1 [] c (c.count f) :=
  ⟨[], rfl, rfl, served, fetches, failures, discarded, .refl _⟩

end Counts

/-! ### What the operations count -/

theorem counts_abort (n : Nat) : Counts 0 [] c (c.abort now n) := by
  refine .silent (by rw [abort_eq]) (by rw [abort_eq]) ?_
  have removed : ((c.agenda.remove n).filterMap Job.fetch?).Subperm c.underway :=
    (List.filter_sublist.filterMap _).subperm
  rcases agenda_abort now n c with rest | ⟨j, -, -, producer, call, rest⟩
  · rwa [underway, rest]
  · rwa [underway, rest, List.filterMap_append, List.filterMap_cons_none rfl, List.filterMap_nil,
      List.append_nil]

theorem counts_abort? (n : Option Nat) : Counts 0 [] c (c.abort? now n) := by
  cases n with
  | none => exact .refl c
  | some n => exact counts_abort n

/-- A job is begun that carries out no fetch. -/
theorem counts_spawn {duty : Duty} (c : Cache α) (now : Time.Instant) (k : Key) (due : Nat)
    (other : ∀ j : Job, j.duty = duty → j.fetch? = none) :
    Counts 0 [] c (c.spawn now k duty due) := by
  refine .silent rfl rfl ?_
  rw [underway, spawn, List.filterMap_append, List.filterMap_cons_none (other _ rfl),
    List.filterMap_nil, List.append_nil]
  exact .refl _

/-- A fetch that starts waits to call its producer. -/
theorem counts_launch : Counts 0 [] c (c.launch now k s) := by
  refine ⟨[.started k c.nextNumber], rfl, rfl, rfl, rfl, rfl, rfl, ?_⟩
  have begun : (c.launch now k s).underway = c.underway ++ [((k, c.nextNumber), false)] :=
    List.filterMap_append
  rw [begun]
  exact List.perm_append_comm.subperm

theorem counts_startFetch {supersede : Bool} :
    Counts 0 [] c (c.startFetch now k supersede).1 := by
  cases hs : c.slots.find? k with
  | none =>
    rw [startFetch_vacant hs]
    exact .refl c
  | some s =>
    cases hf : s.inFlight with
    | none =>
      rw [startFetch_idle hs hf]
      exact counts_launch
    | some f =>
      cases supersede with
      | false =>
        rw [startFetch_joined hs hf]
        exact .refl c
      | true =>
        rw [startFetch_superseding hs hf]
        exact ((counts_abort f.job).trans (.report _ rfl rfl)).trans counts_launch

theorem counts_reschedule : Counts 0 [] c (c.reschedule now k) := by
  cases hs : c.slots.find? k with
  | none =>
    rw [reschedule_vacant hs]
    exact .refl c
  | some s =>
    have stopped : Counts 0 [] c (c.stopTimer now k s.timer) := by
      cases s.timer with
      | none => exact .refl c
      | some timer => exact (counts_abort timer.job).trans (.report _ rfl rfl)
    rw [reschedule_eq hs]
    split
    · exact .refl c
    · cases s.period? with
      | none => exact stopped.trans (.silent rfl rfl (.refl _))
      | some period =>
        have begun := stopped.trans (counts_spawn _ now k (now.elapsed + period)
          fun j (duty : _ = Duty.poll period) => by rw [Job.fetch?, duty])
        exact (begun.trans (.silent rfl rfl (.refl _))).trans (.report _ rfl rfl)

/-- The answer is taken in one way, and counted so. -/
structure Settles (k : Key) (g : Nat) (e : Event) (x : Ending) (c c' : Cache α) : Prop where
  journal : c'.journal = e :: c.journal
  quiet : e.started? = none
  ended : e.ending? = some (x, k, g)
  orphaned : x = .orphaned ↔ c.slots.find? k = none
  served : c'.stats.served = c.stats.served
  fetches : c'.stats.fetches = c.stats.fetches
  failures : c'.stats.failures = c.stats.failures + tallied .failed [(x, k, g)]
  discarded : c'.stats.discarded = c.stats.discarded + tallied .discarded [(x, k, g)]

theorem settles (now : Time.Instant) (k : Key) (alive : c.abandoned = false) (g : Nat)
    (result : Except String α) :
    ∃ e x, Settles k g e x c (c.settle now k g result) := by
  have entered : c.settle now k g result = c.commit now k g result := by
    rw [settle, alive, if_neg Bool.false_ne_true]
  rw [entered]
  cases hs : c.slots.find? k with
  | none =>
    rw [commit_vacant hs]
    exact ⟨.orphaned k g, .orphaned, rfl, rfl, rfl, by simp [hs], rfl, rfl, rfl, rfl⟩
  | some s =>
    by_cases current : s.inFlight.map Flight.generation = some g
    · obtain ⟨f, flying, rfl⟩ := Option.map_eq_some_iff.mp current
      rw [commit_current hs flying]
      cases result with
      | ok a =>
        exact ⟨.committed k f.generation, .committed, rfl, rfl, rfl, by simp [hs], rfl, rfl, rfl, rfl⟩
      | error message =>
        exact ⟨.failed k f.generation message, .failed, rfl, rfl, rfl, by simp [hs], rfl, rfl, rfl,
          rfl⟩
    · rw [commit_overtaken hs current]
      exact ⟨.overtaken k g, .discarded, rfl, rfl, rfl, by simp [hs], rfl, rfl, rfl, rfl⟩

theorem counts_evict : Counts 0 [] c (c.evict k) := by
  exact ⟨[.evicted k], rfl, rfl, rfl, rfl, rfl, rfl, .refl _⟩

theorem counts_abandonEntry {token : Nat} : Counts 0 [] c (c.abandonEntry now k token) := by
  unfold abandonEntry
  split
  · exact counts_evict
  · cases hs : c.slots.find? k with
    | none => exact .refl c
    | some s =>
      have begun := counts_spawn c now k (now.elapsed + c.grace)
        fun j (duty : _ = Duty.collect token) => by rw [Job.fetch?, duty]
      exact (begun.trans (.silent rfl rfl (.refl _))).trans (.report _ rfl rfl)

theorem counts_collect {token : Nat} : Counts 0 [] c (c.collect k token) := by
  unfold collect
  cases c.slots.find? k with
  | none => exact .refl c
  | some s =>
    dsimp only
    split
    · exact counts_evict
    · exact .refl c

theorem counts_scheduledFetch : Counts 0 [] c (c.scheduledFetch now k) := by
  unfold scheduledFetch
  dsimp only
  split
  · exact counts_startFetch
  · exact counts_startFetch.trans (.report _ rfl rfl)

theorem counts_repeated (n : Nat) (c : Cache α) :
    Counts 0 [] c (repeated (scheduledFetch now k) n c) := by
  induction n generalizing c with
  | zero => exact .refl c
  | succ n ih => exact counts_scheduledFetch.trans (ih _)

theorem counts_without (j : Job) : Counts 0 [] c (c.without j) :=
  .silent rfl rfl (List.filter_sublist.filterMap _).subperm

/-- A timer that ticks carries out no fetch itself. -/
theorem counts_tick {j : Job} {period : Nat} (duty : j.duty = .poll period) :
    Counts 0 [] c (c.tick now j period) := by
  let waiting (due : Nat) : Job := { j with due := some due, turn := now.turn }
  have moved (due : Nat) :
      Counts 0 [] c { c with agenda := c.agenda.remove j.number ++ [waiting due] } := by
    have other : (waiting due).fetch? = none := by rw [Job.fetch?, show (waiting due).duty = _ from duty]
    have same : (c.agenda.remove j.number ++ [waiting due]).filterMap Job.fetch? =
        (c.without j).underway := by
      rw [List.filterMap_append, List.filterMap_cons_none other, List.filterMap_nil, List.append_nil]
      rfl
    have rested : Counts 0 [] (c.without j)
        { c with agenda := c.agenda.remove j.number ++ [waiting due] } :=
      .silent rfl rfl (same ▸ List.Subperm.refl _)
    exact (counts_without j).trans rested
  exact (moved _).trans (counts_repeated _ _)

theorem counts_unsubscribe {h : Handle} : Counts 0 [] c (c.unsubscribe now h) := by
  rcases unsubscribe_cases c h with ⟨s, there, member⟩ | stranger
  · have left : Counts 0 [] c (c.left now h s) :=
      .trans (.silent rfl rfl (.refl _)) counts_reschedule
    rw [unsubscribe_member there member]
    split
    · exact left.trans counts_abandonEntry
    · exact left
  · rw [unsubscribe_stranger stranger]
    exact .silent rfl rfl (.refl _)

theorem counts_served (producer : Nat) (o : Options) :
    Counts 1 [] c (c.served now k s producer o) := by
  have joined : Counts 0 [] c (c.joined now k s producer o) := by
    have numbered : Counts 0 [] c c.numbered := .silent rfl rfl (.refl _)
    exact (numbered.trans (counts_abort? _)).trans (.silent rfl rfl (.refl _))
  unfold served
  split
  · exact (joined.trans (.count _ rfl rfl rfl rfl)).trans (.report _ rfl rfl)
  · split
    · exact joined.trans (.count _ (by simp [Stats.served]; omega) rfl rfl rfl)
    · split
      · exact (joined.trans (.count _ (by simp [Stats.served]; omega) rfl rfl rfl)).trans
          counts_startFetch
      · exact (joined.trans (.count _ (by simp [Stats.served]; omega) rfl rfl rfl)).trans
          counts_startFetch

theorem counts_subscribe {producer : Nat} {o : Options} {h : Handle}
    (done : c.subscribe now k producer o = .ok (c', h)) : Counts 1 [] c c' := by
  have valid := valid_of_subscribe done
  cases hs : c.slots.find? k with
  | none =>
    rw [subscribe_vacant valid hs, Except.ok.injEq, Prod.mk.injEq] at done
    obtain ⟨rfl, -⟩ := done
    have found : Counts 1 [] c (c.numbered.found k producer o c.nextNumber) :=
      .trans (.silent rfl rfl (.refl _))
        (.count (c.numbered.setSlot k _) (by simp [Stats.served]; omega) rfl rfl rfl)
    exact (found.trans counts_startFetch).trans counts_reschedule
  | some s =>
    rw [subscribe_there valid hs, Except.ok.injEq, Prod.mk.injEq] at done
    obtain ⟨rfl, -⟩ := done
    exact (counts_served producer o).trans counts_reschedule

theorem counts_refetch (done : c.refetch now k = .ok c') : Counts 0 [] c c' := by
  unfold refetch at done
  split at done
  · obtain rfl := Except.ok.inj done
    exact counts_startFetch
  · exact nomatch done

theorem counts_invalidate : Counts 0 [] c (c.invalidate now k).1 := by
  unfold invalidate
  cases c.slots.find? k with
  | none => exact .refl c
  | some s =>
    have marked : Counts 0 [] c ((c.setSlot k { s with invalidated := true }).report
        (.invalidated k (!s.subscribers.isEmpty))) :=
      .trans (.silent rfl rfl (.refl _)) (.report _ rfl rfl)
    dsimp only
    split
    · exact marked.trans counts_startFetch
    · exact marked

theorem counts_dropEntries : Counts 0 [] c (c.dropEntries now) := by
  have aborted (slots : List (Slot α)) (c : Cache α) :
      Counts 0 [] c (slots.foldl (fun c s => c.abortAll now s) c) := by
    induction slots generalizing c with
    | nil => exact .refl c
    | cons s rest ih =>
      have first : Counts 0 [] c (c.abortAll now s) :=
        ((counts_abort? _).trans (counts_abort? _)).trans (counts_abort? _)
      exact first.trans (ih _)
  exact (aborted _ c).trans (.silent rfl rfl (.refl _))

/-! ### What the steps count -/

namespace Deed

/-- The fetch that called its producer. -/
def called? : Deed α → Option FetchId
  | .run j none => j.fetch?.map Prod.fst
  | _ => none

/-- The fetch that took its answer. -/
def finished? : Deed α → Option FetchId
  | .run j (some _) => j.fetch?.map Prod.fst
  | .straggle k g _ => some (k, g)
  | _ => none

theorem finished?_of_answer {deed : Deed α} (unanswered : deed.answer? = none) :
    deed.finished? = none := by
  cases deed with
  | run j answer =>
    obtain rfl : answer = none := unanswered
    rfl
  | straggle k g answer => simp [answer?] at unanswered
  | _ => rfl

end Deed

/-- What a note tells of the fetches under way: in the course as it was, and in the cache as the note
    leaves it. -/
inductive Course.Moves (w : Course α) (n : Note α) (c : Cache α) : Prop
  | calls {f : FetchId} {rest : List (FetchId × Bool)} (called : n.deed.called? = some f)
      (answer : n.deed.answer? = none) (quiet : starts n.events = [])
      (before : w.cache.underway.Perm ((f, false) :: rest))
      (after : c.underway.Perm ((f, true) :: rest))
  | finishes {f : FetchId} (called : n.deed.called? = none) (finished : n.deed.finished? = some f)
      (quiet : starts n.events = []) (before : w.cache.underway.Perm ((f, true) :: c.underway))
  /-- A fetch takes its answer that had been given up. -/
  | straggles {f : FetchId} (called : n.deed.called? = none) (finished : n.deed.finished? = some f)
      (quiet : starts n.events = []) (same : c.underway = w.cache.underway)
      (started : f.2 ∈ (w.history f.1).started)
      (given_up : ∀ j ∈ w.cache.agenda, j.generation? ≠ some f.2)
      (unsettled : ∀ n ∈ w.past, n.deed.settled? ≠ some f.2)
  | others (called : n.deed.called? = none) (answer : n.deed.answer? = none)
      (fewer : c.underway.Subperm ((starts n.events).map (·, false) ++ w.cache.underway))

/-- What a note tells of the counts, and of the fetches under way. -/
structure Course.Accounts (w : Course α) (n : Note α) (c : Cache α) : Prop where
  served : c.stats.served = w.cache.stats.served + if n.deed.isSubscribe then 1 else 0
  fetches : c.stats.fetches = w.cache.stats.fetches + (starts n.events).length
  failures : c.stats.failures = w.cache.stats.failures + tallied .failed (endings n.events)
  discarded : c.stats.discarded = w.cache.stats.discarded + tallied .discarded (endings n.events)
  ended : w.cache.abandoned = false → (endings n.events).map Prod.snd = n.deed.finished?.toList
  orphaned : ∀ x ∈ endings n.events, x.1 = .orphaned ↔ w.cache.slots.find? x.2.1 = none
  moves : w.Moves n c

/-- The one fetch of a job among those under way. -/
theorem underway_split {begun : Nat} {j : Job} {x : FetchId × Bool} (inv : c.agenda.Numbered begun)
    (listed : j ∈ c.agenda) (carries : j.fetch? = some x) :
    c.underway.Perm (x :: (c.agenda.remove j.number).filterMap Job.fetch?) ∧
      ∀ (f : Job → Job) (y : FetchId × Bool), (f j).fetch? = some y →
        ((c.agenda.change j.number f).filterMap Job.fetch?).Perm
          (y :: (c.agenda.remove j.number).filterMap Job.fetch?) := by
  obtain ⟨before, after, whole, removed, changed⟩ := inv.split listed
  refine ⟨?_, fun f y carries' => ?_⟩
  · rw [underway, removed, whole, List.filterMap_append, List.filterMap_cons_some carries,
      List.filterMap_append]
    exact List.perm_middle
  · rw [removed, changed, List.filterMap_append, List.filterMap_cons_some carries',
      List.filterMap_append]
    exact List.perm_middle

namespace Course

variable {w w' : Course α}

/-- An operation that takes no answer and calls no producer accounts for what it did. -/
theorem Booked.accounts {deed : Deed α} (booked : w.Booked)
    (counts : Counts (if deed.isSubscribe then 1 else 0) [] w.cache c)
    (called : deed.called? = none) (answer : deed.answer? = none) :
    w.Accounts ⟨w.now, deed, c.journal⟩ { c with journal := [] } := by
  obtain ⟨events, journal, ended, served, fetches, failures, discarded, fewer⟩ := counts
  rw [show w.cache.journal = [] from booked, List.append_nil] at journal
  subst journal
  exact ⟨served, fetches, by rw [ended]; exact failures, by rw [ended]; exact discarded,
    fun _ => by rw [ended, Deed.finished?_of_answer answer]; rfl,
    fun x hx => by simp [ended] at hx, .others called answer fewer⟩

/-- A fetch that takes its answer accounts for it. -/
theorem Booked.accounts_settle {deed : Deed α} {g : Nat} (result : Except String α)
    (booked : w.Booked) (slots : c.slots = w.cache.slots) (stats : c.stats = w.cache.stats)
    (journal : c.journal = w.cache.journal) (abandoned : c.abandoned = w.cache.abandoned)
    (finished : deed.finished? = some (k, g)) (other : deed.isSubscribe = false)
    (moves : ∀ events, starts events = [] →
      w.Moves ⟨w.now, deed, events⟩ { c.settle w.now k g result with journal := [] }) :
    w.Accounts ⟨w.now, deed, (c.settle w.now k g result).journal⟩
      { c.settle w.now k g result with journal := [] } := by
  cases alive : c.abandoned with
  | true =>
    have same : c.settle w.now k g result = c := by rw [settle, alive, if_pos rfl]
    have nothing : c.journal = [] := journal.trans booked
    rw [same] at moves ⊢
    rw [nothing]
    refine ⟨?_, ?_, ?_, ?_, fun gone => ?_, fun x hx => (List.not_mem_nil hx).elim, moves [] rfl⟩
    · simp [stats, other]
    · simp [stats, starts]
    · simp [stats, tallied, endings]
    · simp [stats, tallied, endings]
    · simp [← abandoned, alive] at gone
  | false =>
    obtain ⟨e, x, done⟩ := settles w.now k alive g result
    have events : (c.settle w.now k g result).journal = [e] := by
      rw [done.journal, journal, show w.cache.journal = [] from booked]
    have ended : endings [e] = [(x, k, g)] := List.filterMap_cons_some done.ended
    have quiet : starts [e] = [] := List.filterMap_cons_none done.quiet
    rw [events]
    refine ⟨?_, ?_, ?_, ?_, fun _ => ?_, fun y hy => ?_, moves [e] quiet⟩
    · simp [done.served, stats, other]
    · simp [done.fetches, stats, quiet]
    · rw [ended, ← stats]
      exact done.failures
    · rw [ended, ← stats]
      exact done.discarded
    · rw [ended, finished]
      rfl
    · rw [ended] at hy
      obtain rfl := List.mem_singleton.mp hy
      rw [← slots]
      exact done.orphaned

/-- A job accounts for what it does when it runs. -/
theorem Reachable.accounts_run (hw : w.Reachable) {σ : Type} (supplier : Supplier σ α) (state : σ)
    {j : Job} (listed : j ∈ w.cache.agenda) :
    w.Accounts ⟨w.now, .run j (supplier.answer? j state),
      (w.cache.runJob supplier w.now j state).1.journal⟩
      { (w.cache.runJob supplier w.now j state).1 with journal := [] } := by
  have inv := hw.staffed.numbered
  have idle (other : j.fetch? = none) : (Deed.run j (none : Option (Except String α))).called? = none := by
    simp [Deed.called?, other]
  unfold runJob Supplier.answer?
  cases duty : j.duty with
  | call g producer =>
    have carries : j.fetch? = some ((j.key, g), false) := by rw [Job.fetch?, duty]
    obtain ⟨before, after⟩ := underway_split inv listed carries
    show w.Accounts ⟨w.now, .run j none, w.cache.journal⟩ _
    rw [show w.cache.journal = [] from hw.booked]
    exact ⟨rfl, rfl, rfl, rfl, fun _ => rfl, fun x hx => (List.not_mem_nil hx).elim,
      .calls (by simp [Deed.called?, carries]) rfl rfl before (after _ _ rfl)⟩
  | reply g producer call =>
    have carries : j.fetch? = some ((j.key, g), true) := by rw [Job.fetch?, duty]
    have finished (result : Except String α) :
        (Deed.run j (some result)).finished? = some (j.key, g) := by simp [Deed.finished?, carries]
    refine hw.booked.accounts_settle (c := w.cache.without j) _ rfl rfl rfl rfl (finished _) rfl
      fun events quiet => .finishes rfl (finished _) quiet ?_
    have rest : ((w.cache.without j).settle w.now j.key g
        (supplier.reply producer call state)).agenda = w.cache.agenda.remove j.number := agenda_settle
    rw [underway, underway, rest]
    exact (underway_split inv listed carries).1
  | release producer call =>
    exact hw.booked.accounts (counts_without j) (idle (by rw [Job.fetch?, duty])) rfl
  | poll period =>
    exact hw.booked.accounts (counts_tick duty) (idle (by rw [Job.fetch?, duty])) rfl
  | collect token =>
    exact hw.booked.accounts ((counts_without j).trans counts_collect) (idle (by rw [Job.fetch?, duty])) rfl

/-- A step that books nothing counts nothing and leaves the fetches under way; any other accounts
    for what it did. -/
theorem Step.counted (h : Step w w') (hw : w.Reachable) :
    (w'.past = w.past ∧ w'.cache.stats = w.cache.stats ∧
      w'.cache.underway.Perm w.cache.underway) ∨
      ∃ n, w'.past = n :: w.past ∧ w.Accounts n w'.cache := by
  have booked := hw.booked
  cases h with
  | subscribe k producer o alive done =>
    exact .inr ⟨_, rfl, booked.accounts (counts_subscribe done) rfl rfl⟩
  | unsubscribe i alive held =>
    exact .inr ⟨_, rfl, booked.accounts counts_unsubscribe rfl rfl⟩
  | refetch k alive done => exact .inr ⟨_, rfl, booked.accounts (counts_refetch done) rfl rfl⟩
  | invalidate k alive => exact .inr ⟨_, rfl, booked.accounts counts_invalidate rfl rfl⟩
  | clear alive =>
    have cleared := counts_dropEntries.trans (.report (w.cache.dropEntries w.now) (e := .cleared) rfl rfl)
    exact .inr ⟨_, rfl, booked.accounts cleared rfl rfl⟩
  | abandon =>
    have dropped : Counts 0 [] w.cache (w.cache.abandon w.now) :=
      counts_dropEntries.trans (.silent rfl rfl (.refl _))
    exact .inr ⟨_, rfl, booked.accounts dropped rfl rfl⟩
  | run supplier state listed due => exact .inr ⟨_, rfl, hw.accounts_run supplier state listed⟩
  | straggle k g answer started given_up unsettled =>
    refine .inr ⟨_, rfl, booked.accounts_settle answer rfl rfl rfl rfl rfl rfl fun events quiet => ?_⟩
    exact .straggles rfl rfl quiet (congrArg (List.filterMap Job.fetch?) agenda_settle) started given_up
      unsettled
  | answer waits calls =>
    refine .inl ⟨rfl, rfl, ?_⟩
    have kept : (Agenda.answered w.now waits w.cache.agenda).filterMap Job.fetch? =
        (w.cache.agenda.filter (fun j => !waits j) ++ w.cache.agenda.filter waits).filterMap
          Job.fetch? := by
      rw [Agenda.answered, List.filterMap_append, List.filterMap_map, List.filterMap_append]
      rfl
    have order := List.filter_append_perm (fun j => !waits j) w.cache.agenda
    simp only [Bool.not_not] at order
    exact (List.Perm.of_eq kept).trans (order.filterMap _)
  | pass now later => exact .inl ⟨rfl, rfl, .refl _⟩
  | look i held => exact .inl ⟨rfl, rfl, .refl _⟩
  | forget i gone => exact .inl ⟨rfl, rfl, .refl _⟩

end Course

end TaskWatch.Cache
