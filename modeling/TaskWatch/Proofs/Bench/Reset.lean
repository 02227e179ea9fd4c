import TaskWatch.Proofs.Bench.SharedRan
import TaskWatch.Proofs.Cache.Renewed

/-! To clear a cache is to begin anew.

    Of a cleared cache there may be left over the handles that were given out, and calls of producers.
    Whoever goes on with other producers is one party, and what is left over is the other, which has no
    query to its name. So they fare as with a new cache, and whatever is left over changes nothing of
    theirs. -/

namespace TaskWatch.Bench

open Cache

variable {α : Type} {mine : List Bool} {T T₁ T₂ : Tie} {used : Nat → Prop}
  {before done : List (Step α × Bool)} {s : Step α} {hold : Bool}

/-- The producer that somebody subscribes with. -/
def Step.producer? : Step α → Option Nat
  | .subscribe _ producer _ => some producer
  | _ => none

/-- Somebody subscribed with the producer in the course of the steps. -/
def Used (done : List (Step α × Bool)) (producer : Nat) : Prop :=
  ∃ s ∈ done, s.1.producer? = some producer

instance (done : List (Step α × Bool)) (producer : Nat) : Decidable (Used done producer) :=
  inferInstanceAs (Decidable (∃ s ∈ done, s.1.producer? = some producer))

/-- Whoever subscribes with this step brings a producer that was not used before. -/
def Step.Anew (before : List (Step α × Bool)) (s : Step α) : Prop :=
  ∀ p ∈ s.producer?, ¬ Used before p

instance (before : List (Step α × Bool)) (s : Step α) : Decidable (s.Anew before) :=
  inferInstanceAs (Decidable (∀ p ∈ s.producer?, ¬ Used before p))

theorem fair_used (listed : (s, hold) ∈ done) : s.Fair (.sole (Used done)) := by
  cases s with
  | subscribe k p o => exact ⟨fun _ => ⟨_, listed, rfl⟩, id⟩
  | _ => trivial

theorem Step.Anew.fair (anew : s.Anew before) : s.Fair (.newcomers (Used before)) := by
  cases s with
  | subscribe k p o => exact ⟨fun _ => anew p rfl, False.elim⟩
  | _ => trivial

namespace Run

/-- A run of a new cache with the same grace, from the moment on that the run has come to and with the
    producers as they stand. -/
def renewed (r : Run α) : Run α :=
  fresh r.bench.cache.grace r.bench.producers r.bench.now r.bench.origin

/-- No handle that was given out is marked. -/
def unmarked (r : Run α) : List Bool := List.replicate r.handles.length false

/-- The job was begun in the course of the run. -/
def Begun (r : Run α) (j : Job) : Prop := j.number ≤ r.bench.cache.begun

instance (r : Run α) (j : Job) : Decidable (r.Begun j) := inferInstanceAs (Decidable (_ ≤ _))

variable {r r₁ r₂ : Run α}

/-! ### Everybody together -/

/-- If all queries and handles are one's own, nothing is done by others. -/
theorem isOthers_sole (all : ∀ m ∈ mine, m = true) : s.isOthers (fun _ => true) mine = false := by
  have nobody {i : Nat} : (mine[i]? == some false) = false := by
    refine beq_eq_false_iff_ne.mpr fun mark => ?_
    exact nomatch all false (List.mem_of_getElem? mark)
  cases s <;> simp [Step.isOthers, Step.key?, Step.handle?, nobody]

variable [BEq α]

theorem marked_sole : ∀ (done : List (Step α × Bool)) (r : Run α) {mine : List Bool},
    (∀ m ∈ mine, m = true) → ∀ m ∈ r.marked (fun _ => true) mine done, m = true
  | [], _, _, all => all
  | (s, hold) :: done, r, mine, all => by
    refine marked_sole done (r.step s hold).1 fun m listed => ?_
    rw [marks, isOthers_sole all] at listed
    unfold Outcome.marks at listed
    split at listed
    · rcases List.mem_append.mp listed with old | new
      · exact all m old
      · exact List.mem_singleton.mp new
    · exact all m listed

/-- In the course of a run everybody is one party, with the producers that are used. -/
theorem shared_sole (grace : Nat) (producers : List (Producer α)) (now : Nat) (origin : Time.Stamp)
    (done : List (Step α × Bool)) :
    ∃ T₁ T₂ mine r₁ r₂, Shared (.sole (Used done)) T₁ T₂ mine
      ((Run.fresh grace producers now origin).steps done) r₁ r₂ := by
  -- there is nobody else, so nothing is taken out of the run
  have nobody : ∀ m ∈ ([] : List Bool), m = true := nofun
  have unhurried : Unhurried (fun _ => true) (Run.fresh grace producers now origin) [] done :=
    fun before _ _ _ _ => isOthers_sole (marked_sole before _ nobody)
  have none (k : Key) (h : (fun _ => true) k = false) : False := nomatch h
  obtain ⟨r₂, T₁, T₂, -, -, shared⟩ := Shared.thinned (fun _ _ => trivial) none done
    (shared_fresh (.sole (Used done)) grace producers now origin) (fun _ => fair_used) unhurried
  exact ⟨T₁, T₂, _, _, r₂, shared⟩

/-! ### What is left over -/

omit [BEq α] in
theorem handle_left_over {h h₁ : Option Handle} (like : Option.Rel (Handle.Like T₁) h h₁)
    (given : ∀ a x, T₁.number a x → T.number a a) : Option.Rel (Handle.Like T) h h := by
  cases like with
  | none => exact .none
  | some like =>
    exact .some ⟨rfl, given _ _ like.subscriber, given _ _ like.birth, rfl⟩

omit [BEq α] in
/-- The handles that were given out go with themselves. -/
theorem handles_left_over {hs hs₁ hs₂ : List (Option Handle)} (d : Dealt T₁ T₂ mine hs hs₁ hs₂)
    (given₁ : ∀ a x, T₁.number a x → T.number a a) (given₂ : ∀ a x, T₂.number a x → T.number a a) :
    Dealt .none T (List.replicate hs.length false) hs [] hs := by
  induction d with
  | nil => exact .nil
  | mine like _ ih => exact .others (handle_left_over like given₁) ih
  | others like _ ih => exact .others (handle_left_over like given₂) ih

/-- A run whose cache has no slots serves newcomers as a new run does. -/
theorem Shared.renewed (h : Shared (.sole used) T₁ T₂ mine r r₁ r₂)
    (vacant : r.bench.cache.slots = {}) (alive : r.bench.cache.abandoned = false) :
    Shared (.newcomers used) .none (.upTo r.bench.cache.sequence r.bench.cache.begun)
      r.unmarked r r.renewed r := by
  have posted (k : Key) : r.bench.cache.Posted k := by
    obtain ⟨w, hw, tracks⟩ := h.tracked
    exact tracks.toFollows.cache ▸ hw.reachable.tended.posted
  have fresh := tracked_fresh r.bench.cache.grace r.bench.producers r.bench.now r.bench.origin
  have numbers := h.bench.cache.numbers
  exact ⟨⟨⟨rfl, rfl⟩, ⟨rfl, rfl⟩, h.bench.cache.renewed vacant alive posted, fun _ _ => rfl,
    fun _ _ => rfl, h.tracked.followed, fresh.followed, h.tracked.followed⟩,
    handles_left_over h.dealt (fun a x tied => ⟨rfl, (numbers.given₁ a x tied).1⟩)
      (fun a x tied => ⟨rfl, (numbers.given₂ a x tied).1⟩), h.tracked, fresh, h.tracked⟩

theorem act_clear (alive : r.bench.cache.abandoned = false) :
    (r.act .clear).1 = r.withCache (r.bench.cache.clear r.bench.instant) := by
  simp [act, onCache, alive]

/-- So does a run whose cache was cleared. -/
theorem Shared.cleared (h : Shared (.sole used) T₁ T₂ mine r r₁ r₂)
    (alive : r.bench.cache.abandoned = false) :
    let q := (r.act .clear).1
    Shared (.newcomers used) .none (.upTo q.bench.cache.sequence r.bench.cache.begun)
      r.unmarked q q.renewed q := by
  intro q
  obtain ⟨⟨T₁', T₂', -, -, shared⟩, -⟩ := h.act_common (s := .clear) rfl rfl
  have cache : q.bench.cache = { r.bench.cache.clear r.bench.instant with journal := [] } :=
    congrArg (·.bench.cache) (act_clear alive)
  have handles : q.handles = r.handles := congrArg (·.handles) (act_clear alive)
  have kept : q.bench.cache.abandoned = r.bench.cache.abandoned ∧
      q.bench.cache.begun = r.bench.cache.begun := by
    rw [cache, clear, dropEntries_eq]
    exact ⟨rfl, rfl⟩
  have renewed := shared.renewed (congrArg Cache.slots cache) (kept.1.trans alive)
  rwa [show (r.act .clear).1.bench.cache.begun = r.bench.cache.begun from kept.2,
    show (r.act .clear).1.unmarked = r.unmarked by rw [unmarked, unmarked, handles]] at renewed

/-- Somebody who begins anew may as well have the producers as they stand. -/
theorem Shared.restaffed {P : Parties} {grace now : Nat} {producers : List (Producer α)}
    {origin : Time.Stamp}
    (h : Shared P T₁ T₂ mine r (Run.fresh grace producers now origin) r₂) :
    Shared P T₁ T₂ mine r r.renewed r₂ := by
  have same : r.bench.cache.grace = grace ∧ r.bench.now = now ∧ r.bench.origin = origin :=
    ⟨h.bench.cache.grace.1, h.bench.now.1, h.bench.origin.1⟩
  have fresh := tracked_fresh grace r.bench.producers now origin
  rw [Run.renewed, same.1, same.2.1, same.2.2]
  exact ⟨{ h.bench with first := fun _ _ => rfl, followed₁ := fresh.followed }, h.dealt, h.tracked,
    fresh, h.tracked₂⟩

/-- So it does once whatever was due was done. -/
theorem Shared.reset (h : Shared (.sole used) T₁ T₂ mine r r₁ r₂)
    (alive : r.bench.cache.abandoned = false) (hold : Bool) :
    let q := (r.step .clear hold).1
    ∃ T₁' T₂' r₂', Tie.Within (.upTo (r.act .clear).1.bench.cache.sequence r.bench.cache.begun) T₂' ∧
      Shared (.newcomers used) T₁' T₂' r.unmarked q q.renewed r₂' := by
  intro q
  obtain ⟨T₁', T₂', -, le, shared⟩ := (h.cleared alive).shares.rested hold
  have rested (q : Run α) : q.renewed.rested hold = q.renewed := by cases hold <;> rfl
  rw [rested] at shared
  exact ⟨T₁', T₂', _, le, shared.restaffed⟩

/-- Whatever is run from the clearing on, newcomers share the cache then with what is left over. -/
theorem Shared.ran_reset (h : Shared (.sole used) T₁ T₂ mine r r₁ r₂)
    (alive : r.bench.cache.abandoned = false) {own : Key → Bool} (all : ∀ k, own k = true)
    (fair : ∀ s ∈ done, s.1.Fair (.newcomers used))
    (unhurried : Unhurried own (r.step .clear hold).1 r.unmarked done)
    {x : Bench α × Job} (listed : x ∈ r.ranOver ((.clear, hold) :: done)) :
    x.1.Attended (.newcomers used)
      (.upTo (r.act .clear).1.bench.cache.sequence r.bench.cache.begun) ∧ x.2 ∈ x.1.cache.agenda := by
  obtain ⟨_, _, _, le, reset⟩ := h.reset alive hold
  rcases List.mem_append.mp listed with at_once | later
  · rcases List.mem_append.mp at_once with during | after
    · exact nomatch during
    · split at after
      · exact nomatch after
      · exact Attended.ran ⟨_, _, _, _, .refl _, (h.cleared alive).bench⟩ after
  · refine reset.ranOver_attended (fun _ _ => trivial) (fun k none => ?_) done le fair unhurried x later
    exact nomatch (all k).symm.trans none

omit [BEq α] in
/-- A job that is left over from before is no timer and changes no slot. -/
theorem slots_run_left_over {x : Bench α × Job} {n m : Nat}
    (h : x.1.Attended (.newcomers used) (.upTo n m)) (listed : x.2 ∈ x.1.cache.agenda)
    (begun : x.2.number ≤ m) :
    x.2.isTimer = false ∧ (x.1.run x.2).cache.slots = x.1.cache.slots := by
  obtain ⟨T₁, T₂, b₁, b₂, le, shared⟩ := h
  obtain ⟨j₂, like⟩ := shared.cache.second_of_number (le.job _ _ ⟨rfl, begun⟩) listed
  exact shared.cache.slots_runJob like supplier x.1.instant x.1.producers

end Run

open Run

/-- Clear the cache after any run, and go on with producers that were not used in it. Take out what is
    done with handles from before; then all is as with a new cache: the entries, the subscribers, what
    the new handles see, the calls of those producers, and what the next step brings. Of the jobs that
    were begun before, none is a timer that still runs, and none changes a slot. -/
theorem clear_resets [BEq α] (grace : Nat) (producers : List (Producer α)) (now : Nat)
    (origin : Time.Stamp) (hold : Bool) {before c : List (Step α × Bool)}
    (anew : ∀ s ∈ c, s.1.Anew before) :
    let past := (Run.fresh grace producers now origin).steps before
    let q := (past.step .clear hold).1
    let own := fun _ : Key => true
    let mine := q.marked own past.unmarked c
    let all := q.steps c
    let alone := q.renewed.steps (q.thinned own past.unmarked c)
    past.bench.cache.abandoned = false → Unhurried own q past.unmarked c →
    SameTo (fun _ => True) (fun p => ¬ Used before p) mine all alone ∧
    (∀ s : Step α, s.Anew before → s.isOthers own mine = false →
      s.Tells (fun p => ¬ Used before p) →
      (alone.act (s.renumbered (ownNumber mine))).2 = (all.act s).2.renumbered (ownNumber mine)) ∧
    ∀ x ∈ past.ranOver ((.clear, hold) :: c), past.Begun x.2 →
      x.2.isTimer = false ∧ (x.1.run x.2).cache.slots = x.1.cache.slots := by
  intro past q own mine all alone alive unhurried
  have first (k : Key) (_ : own k = true) : True := trivial
  have second (k : Key) (h : own k = false) : False := nomatch h
  obtain ⟨T₁, T₂, marks, r₁, r₂, sole⟩ := shared_sole grace producers now origin before
  obtain ⟨U₁, U₂, r₂', le, reset⟩ := sole.reset alive hold
  have fair (s : Step α × Bool) (listed : s ∈ c) := (anew s listed).fair
  obtain ⟨_, V₁, V₂, -, -, shared⟩ := Shared.thinned first second c reset fair unhurried
  refine ⟨shared.sameTo, fun s anew others tells => ?_, fun x listed begun => ?_⟩
  · exact shared.outcome first anew.fair others tells
  · obtain ⟨attended, waits⟩ := sole.ran_reset alive (fun _ => rfl) fair unhurried listed
    exact slots_run_left_over attended waits begun

/-- Two queries are fetched, and one is dropped while its call still runs. Then the cache is cleared, and
    somebody subscribes to the same query with another producer. When the call is answered at last, the
    entry stays as it is in a new cache. -/
theorem late_answer_harmless :
    let a : Key := ⟨["a"]⟩
    let b : Key := ⟨["b"]⟩
    let producers : List (Producer Nat) := [{ supply := .script [⟨.ok 1, 5⟩, ⟨.ok 2, 30⟩] },
      { supply := .script [⟨.ok 3, 10⟩] }]
    let before : List (Step Nat × Bool) := [(.subscribe a 0 { interval := 20 }, false),
      (.subscribe b 0 {}, false), (.unsubscribe 1, false), (.jump 10, false)]
    let c : List (Step Nat × Bool) := [(.subscribe b 1 { interval := 50 }, false),
      (.unsubscribe 0, false), (.jump 15, false), (.jump 10, false)]
    let past := (Run.fresh 0 producers 0 Time.benchStart).steps before
    let q := (past.step .clear true).1
    let own := fun _ : Key => true
    let all := q.steps c
    let alone := q.renewed.steps (q.thinned own past.unmarked c)
    (all.bench.cache.entry? b).map Entry.data = some (some 3) ∧
    (alone.bench.cache.entry? b).map Entry.data = some (some 3) ∧
    (all.bench.producers[1]?).map Producer.probe = some ⟨1, 0, 1⟩ ∧
    (alone.bench.producers[1]?).map Producer.probe = some ⟨1, 0, 1⟩ ∧
    (alone.act (.latest 0)).2 =
      (all.act (.latest 2)).2.renumbered (ownNumber [false, false, true]) ∧
    ∃ x ∈ past.ranOver ((.clear, true) :: c), x.1.now = 35 ∧ x.2.key = b ∧ past.Begun x.2 ∧
      x.2.isTimer = false ∧ (x.1.run x.2).cache.slots = x.1.cache.slots := by
  intro a b producers before c past q own all alone
  have anew : ∀ s ∈ c, s.1.Anew before := by decide
  have waits : ∀ s ∈ c, s.1.waits = false := by decide
  have marked : q.marked own past.unmarked c = [false, false, true] := by decide
  have reset := clear_resets 0 producers 0 Time.benchStart true anew (by decide)
    (unhurried_of_waits waits)
  have same : SameTo (fun _ => True) (fun p => ¬ Used before p) (q.marked own past.unmarked c) all
    alone := reset.1
  have answer : (alone.act (.latest (ownNumber (q.marked own past.unmarked c) 2))).2 =
      (all.act (.latest 2)).2.renumbered (ownNumber (q.marked own past.unmarked c)) :=
    reset.2.1 (.latest 2) nofun (by decide) trivial
  rw [marked] at answer
  have data : (all.bench.cache.entry? b).map Entry.data = some (some 3) := by decide
  have calls : (all.bench.producers[1]?).map Producer.probe = some ⟨1, 0, 1⟩ := by decide
  have data' := (congrArg (Option.map Entry.data) (same.entry b trivial)).symm.trans data
  have calls' := (congrArg (Option.map Producer.probe) (same.producers 1 (by decide))).symm.trans calls
  have late : ∃ x ∈ past.ranOver ((.clear, true) :: c), x.1.now = 35 ∧ x.2.key = b ∧
      past.Begun x.2 := by decide
  obtain ⟨x, listed, present, key, begun⟩ := late
  have harmless : x.2.isTimer = false ∧ (x.1.run x.2).cache.slots = x.1.cache.slots :=
    reset.2.2 x listed begun
  exact ⟨data, data', calls, calls', answer, x, listed, present, key, begun, harmless⟩

end TaskWatch.Bench
