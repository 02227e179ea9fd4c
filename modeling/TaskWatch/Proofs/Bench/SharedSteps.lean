import TaskWatch.Proofs.Bench.Ran
import TaskWatch.Proofs.Bench.SharedRun

/-! How a party fares in a run that it shares.

    Step by step a shared run goes on as the runs of the two parties do. While one party waits, time
    passes for the other. So in the end a party finds what it would have found in the run without what
    others did. -/

namespace TaskWatch.Bench

open Cache

variable {α : Type} {P : Parties} {T T₁ T₂ : Tie} {mine : List Bool} {r r₁ r₂ : Run α}
  {hd hd₁ : Handle} {k : Key} {i : Nat}

/-- The step is one that the party takes by itself: with its queries and producers, or with its
    handles. -/
def Step.Of (p : Party) (mine : List Bool) : Step α → Prop
  | .subscribe k producer _ => p.keys k ∧ p.producers producer
  | .entry k _ => p.keys k
  | .refetch k => p.keys k
  | .invalidate k => p.keys k
  | .unsubscribe i => mine[i]? ≠ some false
  | .current i => mine[i]? ≠ some false
  | .latest i => mine[i]? ≠ some false
  | .keyOf i => mine[i]? ≠ some false
  | .changed i _ => mine[i]? ≠ some false
  | .waitFor i _ _ => mine[i]? ≠ some false
  | _ => False

/-- Who subscribes does so with a producer of their own. -/
def Step.Fair (P : Parties) : Step α → Prop
  | .subscribe k producer _ =>
    (P.first.keys k → P.first.producers producer) ∧ (P.second.keys k → P.second.producers producer)
  | _ => True

/-- What comes of the step tells of the given producers only, and not of the cache as a whole. -/
def Step.Tells (producers : Nat → Prop) : Step α → Prop
  | .resolve producer _ _ => producers producer
  | .hitRate => False
  | _ => True

namespace Run

/-! ### Waiting -/

/-- Time has passed in a run, and it is as if its users had slept. -/
structure Passed (m : Nat) (r r' : Run α) : Prop where
  handles : r'.handles = r.handles
  rest : r'.bench.rest = (r.bench.sleep m).rest

theorem marks_told (answer : Option (Except Misuse (Entry α))) :
    (told answer).marks mine true = mine := by
  unfold told
  split <;> rfl

theorem renumbered_told (answer : Option (Except Misuse (Entry α))) (f : Nat → Nat) :
    (told answer).renumbered f = told answer := by
  unfold told
  split <;> rfl

namespace Shared

theorem passed (h : Shared P T₁ T₂ mine r r₁ r₂) : Passed 0 r₂ r₂ :=
  ⟨rfl, h.bench.followed₂.rest_sleep_zero.symm⟩

/-- The holder of a handle has seen in both runs what there is to see. -/
theorem look (h : Shared P T₁ T₂ mine r r₁ r₂) (own : mine[i]? ≠ some false)
    (held : r.handle? i = some hd) (held₁ : r₁.handle? (ownNumber mine i) = some hd₁)
    (like : hd.Like T₁ hd₁) :
    Shared P T₁ T₂ mine (r.setHandle i (hd.caughtUp r.bench.cache))
      (r₁.setHandle (ownNumber mine i) (hd₁.caughtUp r₁.bench.cache)) r₂ where
  bench := h.bench
  dealt := h.dealt.set own (.some (like.caughtUp (h.bench.cache.view like)))
  tracked := h.tracked.goesOn (goesOn_look (Option.join_eq_some_iff.mp held))
  tracked₁ := h.tracked₁.goesOn (goesOn_look (Option.join_eq_some_iff.mp held₁))
  tracked₂ := h.tracked₂

/-- The first party waits for something to be seen with its handle. -/
theorem await (h : Shared P T₁ T₂ mine r r₁ r₂) {β : Type} (like : hd.Like T₁ hd₁)
    (sees : Handle → Cache α → Option β)
    (agree : ∀ {T hd hd₁ c c₁}, hd.Like T hd₁ → hd.view c = hd₁.view c₁ → sees hd c = sees hd₁ c₁)
    (timeout : Nat) :
    let b := r.bench.await (fun b => sees hd b.cache) timeout
    let b₁ := r₁.bench.await (fun b => sees hd₁ b.cache) timeout
    ∃ r₂' m, Shares P T₁ T₂ mine { r with bench := b.1 } { r₁ with bench := b₁.1 } r₂' ∧
      b.2 = b₁.2 ∧ b.1.now = r.bench.now + m ∧ Passed m r₂ r₂' := by
  intro b b₁
  obtain ⟨b₂, m, shares, same, goes₂, now, rest⟩ := h.bench.await
    (fun b => sees hd b.cache) (fun b => sees hd₁ b.cache) (fun _ _ => rfl) (fun _ _ => rfl)
    (fun le shared => agree (like.mono le) (shared.cache.view (like.mono le))) timeout
  exact ⟨{ r₂ with bench := b₂ }, m,
    h.benches shares (goes_await _ timeout _) (goes_await _ timeout _) goes₂, same, now, rfl, rest⟩

variable [BEq α]

/-- The first party waits with a handle in both runs, if it holds it, and time passes for the other. -/
theorem act_wait (h : Shared P T₁ T₂ mine r r₁ r₂) {s s₁ : Step α} (own : mine[i]? ≠ some false)
    (about : s.handle? = some i) (about₁ : s₁.handle? = some (ownNumber mine i))
    (does : ∀ hd hd₁, r.handle? i = some hd → r₁.handle? (ownNumber mine i) = some hd₁ →
      hd.Like T₁ hd₁ → ∃ r₂' m, Alike P T₁ T₂ mine r₂' (r.act s) (r₁.act s₁) ∧
        (r.act s).1.bench.now = r.bench.now + m ∧ Passed m r₂ r₂') :
    ∃ r₂' m, Alike P T₁ T₂ mine r₂' (r.act s) (r₁.act s₁) ∧
      (r.act s).1.bench.now = r.bench.now + m ∧ Passed m r₂ r₂' := by
  have held := h.handle? own
  generalize found : r.handle? i = hd, found₁ : r₁.handle? (ownNumber mine i) = hd₁ at held
  cases held with
  | some like => exact does _ _ found found₁ like
  | none =>
    have done : r.act s = (r, .noHandle) := act_free found about
    refine ⟨r₂, 0, h.unchanged done (act_free found₁ about₁) rfl rfl, ?_, h.passed⟩
    rw [done]
    rfl

theorem act_changed (h : Shared P T₁ T₂ mine r r₁ r₂) (own : mine[i]? ≠ some false) (timeout : Nat) :
    ∃ r₂' m, Alike P T₁ T₂ mine r₂' (r.act (.changed i timeout))
        (r₁.act (.changed (ownNumber mine i) timeout)) ∧
      (r.act (.changed i timeout)).1.bench.now = r.bench.now + m ∧ Passed m r₂ r₂' := by
  refine h.act_wait own rfl rfl fun hd hd₁ found found₁ like => ?_
  obtain ⟨r₂', m, ⟨T₁', T₂', le₁, le₂, shared⟩, same, now, passed⟩ :=
    h.await like Handle.change? Handle.Like.change? timeout
  have looked := shared.look own found found₁ (like.mono le₁)
  refine ⟨r₂', m, ?_⟩
  simp only [act, onHandle, found, found₁, ← same]
  split
  all_goals
    refine ⟨⟨⟨T₁', T₂', le₁, le₂, ?_⟩, (renumbered_told _ _).symm⟩, now, passed⟩
    rw [marks_told]
  · exact looked
  · exact shared

theorem act_waitFor (h : Shared P T₁ T₂ mine r r₁ r₂) (own : mine[i]? ≠ some false)
    (wish : Wish α) (timeout : Nat) :
    ∃ r₂' m, Alike P T₁ T₂ mine r₂' (r.act (.waitFor i wish timeout))
        (r₁.act (.waitFor (ownNumber mine i) wish timeout)) ∧
      (r.act (.waitFor i wish timeout)).1.bench.now = r.bench.now + m ∧ Passed m r₂ r₂' := by
  refine h.act_wait own rfl rfl fun hd hd₁ found found₁ like => ?_
  obtain ⟨r₂', m, ⟨T₁', T₂', le₁, le₂, shared⟩, same, now, passed⟩ :=
    h.await like (fun hd => hd.match? (fun e => wish.holds e))
      (fun like view => like.match? view _) timeout
  have looked := shared.look own found found₁ (like.mono le₁)
  refine ⟨r₂', m, ?_⟩
  simp only [act, onHandle, found, found₁, ← same]
  refine ⟨⟨⟨T₁', T₂', le₁, le₂, ?_⟩, (renumbered_told _ _).symm⟩, now, passed⟩
  rw [marks_told]
  exact looked

end Shared

/-! ### One step -/

namespace Shared

variable [BEq α] {s : Step α}

/-- What the first party does by itself it does in its own run as well. -/
theorem act_own (h : Shared P T₁ T₂ mine r r₁ r₂) (of : s.Of P.first mine) :
    ∃ r₂' m, Alike P T₁ T₂ mine r₂' (r.act s) (r₁.act (s.renumbered (ownNumber mine))) ∧
      (r.act s).1.bench.now = r.bench.now + m ∧ Passed m r₂ r₂' ∧ (s.waits = false → r₂' = r₂) := by
  have instantly {s : Step α}
      (alike : Alike P T₁ T₂ mine r₂ (r.act s) (r₁.act (s.renumbered (ownNumber mine)))) :
      ∃ r₂' m, Alike P T₁ T₂ mine r₂' (r.act s) (r₁.act (s.renumbered (ownNumber mine))) ∧
        (r.act s).1.bench.now = r.bench.now + m ∧ Passed m r₂ r₂' ∧
        (s.waits = false → r₂' = r₂) := by
    obtain ⟨_, _, -, -, shared⟩ := alike.1
    exact ⟨r₂, 0, alike, shared.bench.now.2.trans h.bench.now.2.symm, h.passed, fun _ => rfl⟩
  cases s with
  | subscribe k producer o => exact instantly (h.act_subscribe of.1 of.2 o)
  | entry k stale => exact instantly (h.act_entry of stale)
  | refetch k => exact instantly (h.act_refetch of)
  | invalidate k => exact instantly (h.act_invalidate of)
  | unsubscribe i => exact instantly (h.act_unsubscribe of)
  | current i => exact instantly (h.act_current of)
  | latest i => exact instantly (h.act_latest of)
  | keyOf i => exact instantly (h.act_keyOf of)
  | changed i timeout =>
    obtain ⟨r₂', m, alike, now, passed⟩ := h.act_changed of timeout
    exact ⟨r₂', m, alike, now, passed, nofun⟩
  | waitFor i wish timeout =>
    obtain ⟨r₂', m, alike, now, passed⟩ := h.act_waitFor of wish timeout
    exact ⟨r₂', m, alike, now, passed, nofun⟩
  | _ => exact of.elim

/-- Something is done with all three caches. -/
theorem acted_all (h : Shared P T₁ T₂ mine r r₁ r₂) {c c₁ c₂ : Cache α} {o o₁ o₂ : Outcome α}
    (done : r.act s = (r.withCache c, o)) (done₁ : r₁.act s = (r₁.withCache c₁, o₁))
    (done₂ : r₂.act s = (r₂.withCache c₂, o₂)) (cache : Cache.Shared P T₁ T₂ c c₁ c₂) :
    Shares P T₁ T₂ mine (r.act s).1 (r₁.act s).1 (r₂.act s).1 := by
  have tracked := h.tracked.goesOn (goesOn_act r s)
  have tracked₁ := h.tracked₁.goesOn (goesOn_act r₁ s)
  have tracked₂ := h.tracked₂.goesOn (goesOn_act r₂ s)
  rw [done] at tracked ⊢
  rw [done₁] at tracked₁ ⊢
  rw [done₂] at tracked₂ ⊢
  have bench : Bench.Shared P T₁ T₂ (r.bench.withCache c) (r₁.bench.withCache c₁)
      (r₂.bench.withCache c₂) :=
    ⟨h.bench.now, h.bench.origin, { cache with }, h.bench.first, h.bench.second, tracked.followed,
      tracked₁.followed, tracked₂.followed⟩
  exact Shared.shares ⟨bench, h.dealt, tracked, tracked₁, tracked₂⟩

/-- What concerns nobody in particular is done in all three runs. -/
theorem act_common (h : Shared P T₁ T₂ mine r r₁ r₂) (key : s.key? = none)
    (handle : s.handle? = none) :
    Shares P T₁ T₂ mine (r.act s).1 (r₁.act s).1 (r₂.act s).1 ∧
      (s.Tells P.first.producers → (r₁.act s).2 = (r.act s).2) := by
  have gone₁ := h.bench.cache.abandoned.1
  have gone₂ := h.bench.cache.abandoned.2
  have cleared := h.bench.cache.clear r.bench.instant r₁.bench.turn r₂.bench.turn
  have abandoned := h.bench.cache.abandon r.bench.instant r₁.bench.turn r₂.bench.turn
  rw [← h.bench.instant, ← h.bench.swap.instant] at cleared abandoned
  cases s with
  | clear =>
    cases gone : r.bench.cache.abandoned with
    | true =>
      have done {r : Run α} (gone : r.bench.cache.abandoned = true) :
          r.act .clear = (r, .noCache) := by simp [act, onCache, gone]
      rw [done gone, done (gone₁ ▸ gone), done (gone₂ ▸ gone)]
      exact ⟨h.shares, fun _ => rfl⟩
    | false =>
      have done {r : Run α} (gone : r.bench.cache.abandoned = false) :
          r.act .clear = (r.withCache (r.bench.cache.clear r.bench.instant), .nothing) := by
        simp [act, onCache, gone]
      have done₁ := done (gone₁ ▸ gone)
      refine ⟨h.acted_all (done gone) done₁ (done (gone₂ ▸ gone)) cleared, fun _ => ?_⟩
      rw [done gone, done₁]
  | hitRate =>
    simp only [act, onCache, ← gone₁, ← gone₂]
    split <;> exact ⟨h.shares, False.elim⟩
  | grace =>
    simp only [act, onCache, ← gone₁, ← gone₂, ← h.bench.cache.grace.1]
    split <;> exact ⟨h.shares, fun _ => rfl⟩
  | abandon => exact ⟨h.acted_all rfl rfl rfl abandoned, fun _ => rfl⟩
  | resolve producer call result =>
    have shares := (h.bench.resolve producer call result).shares
    refine ⟨h.benches shares (goes_resolve _ _ _ _) (goes_resolve _ _ _ _)
      (goes_resolve _ _ _ _), fun his => ?_⟩
    exact congrArg Outcome.flag (h.bench.resolve_own his call result).2.symm
  | sleep ms =>
    have slept := h.benches (h.bench.sleep ms) (goes_sleep _ ms) (goes_sleep _ ms) (goes_sleep _ ms)
    exact ⟨slept, fun _ => rfl⟩
  | jump ms =>
    have leapt := h.benches (h.bench.jump ms) (goes_jump _ ms) (goes_jump _ ms) (goes_jump _ ms)
    exact ⟨leapt, fun _ => rfl⟩
  | subscribe => exact (Option.some_ne_none _ key).elim
  | entry => exact (Option.some_ne_none _ key).elim
  | refetch => exact (Option.some_ne_none _ key).elim
  | invalidate => exact (Option.some_ne_none _ key).elim
  | _ => exact (Option.some_ne_none _ handle).elim

end Shared

/-- The run once whatever is due was done, unless the next step is to come first. -/
def rested (hold : Bool) (r : Run α) : Run α :=
  if hold then r else { r with bench := r.bench.rest }

variable [BEq α] {s : Step α}

theorem step_eq (r : Run α) (s : Step α) (hold : Bool) :
    (r.step s hold).1 = (r.act s).1.rested hold := rfl

omit [BEq α] in
theorem Shares.rested (h : Shares P T₁ T₂ mine r r₁ r₂) (hold : Bool) :
    Shares P T₁ T₂ mine (r.rested hold) (r₁.rested hold) (r₂.rested hold) := by
  cases hold with
  | true => exact h
  | false => exact h.next Shared.rest

omit [BEq α] in
theorem Shares.swap (h : Shares P T₁ T₂ mine r r₁ r₂) :
    Shares P.swap T₂ T₁ (mine.map (!·)) r r₂ r₁ := by
  obtain ⟨T₁', T₂', le₁, le₂, shared⟩ := h
  exact ⟨T₂', T₁', le₂, le₁, shared.swap⟩

omit [BEq α] in
theorem marks_swap (o : Outcome α) (own : Bool) :
    (o.marks (mine.map (!·)) own).map (!·) = o.marks mine (!own) := by
  cases o <;> simp [Outcome.marks, List.map_map, Function.comp_def]

namespace Shared

/-- The first party takes a step in its own run as well. -/
theorem step_own (h : Shared P T₁ T₂ mine r r₁ r₂) (of : s.Of P.first mine) (hold : Bool) :
    ∃ r₂', Shares P T₁ T₂ ((r.act s).2.marks mine true) (r.step s hold).1
      (r₁.step (s.renumbered (ownNumber mine)) hold).1 r₂' := by
  obtain ⟨r₂', -, alike, -⟩ := h.act_own of
  exact ⟨r₂'.rested hold, alike.1.rested hold⟩

/-- Of what others do only the time is left that has passed. -/
theorem step_others (h : Shared P T₁ T₂ mine r r₁ r₂) (of : s.Of P.second (mine.map (!·)))
    {hold : Bool} (lets : s.waits = true → hold = false) :
    ∃ r₂', Shares P T₁ T₂ ((r.act s).2.marks mine false) (r.step s hold).1
      (if hold then r₁
        else (r₁.step (.sleep ((r.step s hold).1.bench.now - r.bench.now)) false).1) r₂' := by
  obtain ⟨r₁', m, alike, now, passed, instantly⟩ := h.swap.act_own of
  have shares := (alike.1.rested hold).swap
  rw [marks_swap] at shares
  refine ⟨(r₂.act (s.renumbered (ownNumber (mine.map (!·))))).1.rested hold, ?_⟩
  rw [step_eq]
  cases hold with
  | true =>
    -- the next step comes first, so this one took no time
    have still : r₁' = r₁ := instantly (Bool.eq_false_iff.mpr fun waits => nomatch lets waits)
    rw [still] at shares
    exact shares
  | false =>
    have elapsed : ((r.act s).1.rested false).bench.now - r.bench.now = m := by
      show (r.act s).1.bench.rest.now - r.bench.now = m
      rw [now_rest, now, Nat.add_sub_cancel_left]
    have slept : r₁'.rested false = (r₁.step (.sleep m) false).1 := by
      show { r₁' with bench := r₁'.bench.rest } = { r₁ with bench := (r₁.bench.sleep m).rest }
      rw [passed.rest, passed.handles]
    rw [slept] at shares
    rw [elapsed]
    exact shares

theorem step_common (h : Shared P T₁ T₂ mine r r₁ r₂) (key : s.key? = none)
    (handle : s.handle? = none) (hold : Bool) :
    ∃ r₂', Shares P T₁ T₂ mine (r.step s hold).1 (r₁.step s hold).1 r₂' :=
  ⟨_, (h.act_common key handle).1.rested hold⟩

end Shared

/-! ### Many steps -/

/-- Whatever others do with a handle of theirs that takes time, all that is due at the end is done
    before the next step. -/
def Unhurried (own : Key → Bool) (r : Run α) (mine : List Bool) (done : List (Step α × Bool)) : Prop :=
  ∀ before s after, done = before ++ (s, true) :: after → s.waits = true →
    s.isOthers own (r.marked own mine before) = false

theorem Unhurried.first {own : Key → Bool} {hold : Bool} {done : List (Step α × Bool)}
    (h : Unhurried own r mine ((s, hold) :: done)) (others : s.isOthers own mine = true)
    (waits : s.waits = true) : hold = false := by
  cases hold with
  | false => rfl
  | true => exact nomatch (h [] s done rfl waits).symm.trans others

theorem Unhurried.rest {own : Key → Bool} {hold : Bool} {done : List (Step α × Bool)}
    (h : Unhurried own r mine ((s, hold) :: done)) :
    Unhurried own (r.step s hold).1 (r.marks own mine s) done :=
  fun before s' after split waits => h ((s, hold) :: before) s' after (congrArg _ split) waits

theorem Unhurried.before {own : Key → Bool} {before after : List (Step α × Bool)}
    (h : Unhurried own r mine (before ++ after)) : Unhurried own r mine before := by
  rintro before' s' after' rfl
  exact h before' s' (after' ++ after) (by simp)

variable {own : Key → Bool}

omit [BEq α] in
/-- A step of others is one that the second party takes by itself. -/
theorem of_others (second : ∀ k, own k = false → P.second.keys k) (fair : s.Fair P)
    (others : s.isOthers own mine = true) : s.Of P.second (mine.map (!·)) := by
  have alien {k : Key} (h : (!own k || false) = true) : P.second.keys k :=
    second k (by simpa using h)
  have theirs {i : Nat} (h : (false || mine[i]? == some false) = true) :
      (mine.map (!·))[i]? ≠ some false := by
    have mark : mine[i]? = some false := by simpa using h
    rw [List.getElem?_map, mark]
    exact nofun
  cases s with
  | subscribe => exact ⟨alien others, fair.2 (alien others)⟩
  | entry => exact alien others
  | refetch => exact alien others
  | invalidate => exact alien others
  | unsubscribe => exact theirs others
  | current => exact theirs others
  | latest => exact theirs others
  | keyOf => exact theirs others
  | changed => exact theirs others
  | waitFor => exact theirs others
  | _ => exact nomatch others

omit [BEq α] in
/-- Any other step is one of the first party, or concerns nobody in particular. -/
theorem of_own (first : ∀ k, own k = true → P.first.keys k) (fair : s.Fair P)
    (others : s.isOthers own mine = false) :
    s.Of P.first mine ∨ (s.key? = none ∧ s.handle? = none) := by
  have hers {k : Key} (h : (!own k || false) = false) : P.first.keys k :=
    first k (by simpa using h)
  have held {i : Nat} (h : (false || mine[i]? == some false) = false) : mine[i]? ≠ some false := by
    simpa using h
  cases s with
  | subscribe => exact .inl ⟨hers others, fair.1 (hers others)⟩
  | entry => exact .inl (hers others)
  | refetch => exact .inl (hers others)
  | invalidate => exact .inl (hers others)
  | unsubscribe => exact .inl (held others)
  | current => exact .inl (held others)
  | latest => exact .inl (held others)
  | keyOf => exact .inl (held others)
  | changed => exact .inl (held others)
  | waitFor => exact .inl (held others)
  | _ => exact .inr ⟨rfl, rfl⟩

/-- What concerns nobody in particular gives out no handle. -/
theorem common_handle (key : s.key? = none) (handle : s.handle? = none) (i : Nat) :
    (r.act s).2 ≠ .handle i := by
  have onCache {f : Cache α → Run α × Outcome α} (h : ∀ c, (f c).2 ≠ .handle i) :
      (r.onCache f).2 ≠ .handle i :=
    Run.onCache_cases (P := fun done => done.2 ≠ .handle i) nofun fun _ => h _
  cases s with
  | clear => exact onCache fun _ => nofun
  | hitRate => exact onCache fun _ => nofun
  | grace => exact onCache fun _ => nofun
  | abandon => exact nofun
  | resolve => exact nofun
  | sleep => exact nofun
  | jump => exact nofun
  | subscribe => exact nomatch key
  | entry => exact nomatch key
  | refetch => exact nomatch key
  | invalidate => exact nomatch key
  | _ => exact nomatch handle

omit [BEq α] in
theorem marks_of_ne {o : Outcome α} (h : ∀ i, o ≠ .handle i) (b : Bool) : o.marks mine b = mine := by
  cases o with
  | handle i => exact (h i rfl).elim
  | _ => rfl

omit [BEq α] in
theorem renumbered_of_ne {o : Outcome α} (h : ∀ i, o ≠ .handle i) (f : Nat → Nat) :
    o.renumbered f = o := by
  cases o with
  | handle i => exact (h i rfl).elim
  | _ => rfl

omit [BEq α] in
theorem renumbered_common (key : s.key? = none) (handle : s.handle? = none) (f : Nat → Nat) :
    s.renumbered f = s := by
  cases s with
  | unsubscribe => exact nomatch handle
  | current => exact nomatch handle
  | latest => exact nomatch handle
  | keyOf => exact nomatch handle
  | changed => exact nomatch handle
  | waitFor => exact nomatch handle
  | _ => rfl

/-- A shared run goes on by one step as the first party's own run does without what others do. -/
theorem Shared.step_thinned (h : Shared P T₁ T₂ mine r r₁ r₂)
    (first : ∀ k, own k = true → P.first.keys k) (second : ∀ k, own k = false → P.second.keys k)
    (fair : s.Fair P) (hold : Bool)
    (lets : s.isOthers own mine = true → s.waits = true → hold = false)
    (done : List (Step α × Bool)) :
    ∃ r₁' r₂', Shares P T₁ T₂ (r.marks own mine s) (r.step s hold).1 r₁' r₂' ∧
      r₁.steps (r.thinned own mine ((s, hold) :: done)) =
        r₁'.steps ((r.step s hold).1.thinned own (r.marks own mine s) done) := by
  cases others : s.isOthers own mine with
  | true =>
    obtain ⟨r₂', shares⟩ := h.step_others (of_others second fair others) (lets others)
    refine ⟨_, r₂', by rw [marks, others]; exact shares, ?_⟩
    cases hold with
    | true => rw [thinned_held others]; rfl
    | false => rw [thinned_let others]; rfl
  | false =>
    rw [thinned_own others]
    rcases of_own first fair others with of | ⟨key, handle⟩
    · obtain ⟨r₂', shares⟩ := h.step_own of hold
      exact ⟨_, r₂', by rw [marks, others]; exact shares, rfl⟩
    · obtain ⟨r₂', shares⟩ := h.step_common key handle hold
      have unmarked : r.marks own mine s = mine := marks_of_ne (common_handle key handle) _
      rw [renumbered_common key handle]
      exact ⟨(r₁.step s hold).1, r₂', unmarked.symm ▸ shares, rfl⟩

/-- So it does step by step. -/
theorem Shared.thinned (first : ∀ k, own k = true → P.first.keys k)
    (second : ∀ k, own k = false → P.second.keys k) : ∀ (done : List (Step α × Bool)) {T₁ T₂ : Tie}
    {mine : List Bool} {r r₁ r₂ : Run α}, Shared P T₁ T₂ mine r r₁ r₂ →
    (∀ s ∈ done, s.1.Fair P) → Unhurried own r mine done →
    ∃ r₂', Shares P T₁ T₂ (r.marked own mine done) (r.steps done)
      (r₁.steps (r.thinned own mine done)) r₂'
  | [], _, _, _, _, _, r₂, h, _, _ => ⟨r₂, h.shares⟩
  | (s, hold) :: done, T₁, T₂, mine, r, r₁, r₂, h, fair, unhurried => by
    obtain ⟨r₁', r₂', ⟨T₁', T₂', le₁, le₂, shared⟩, same⟩ :=
      h.step_thinned first second (fair _ (List.mem_cons_self ..)) hold unhurried.first done
    obtain ⟨r₂'', T₁'', T₂'', le₁', le₂', all⟩ := Shared.thinned first second done shared
      (fun s' listed => fair s' (List.mem_cons_of_mem _ listed)) unhurried.rest
    rw [same]
    exact ⟨r₂'', T₁'', T₂'', le₁.trans le₁', le₂.trans le₂', all⟩

/-- What comes of a step that is not of others is the same in the first party's own run. -/
theorem Shared.outcome (h : Shared P T₁ T₂ mine r r₁ r₂)
    (first : ∀ k, own k = true → P.first.keys k) (fair : s.Fair P)
    (others : s.isOthers own mine = false) (tells : s.Tells P.first.producers) :
    (r₁.act (s.renumbered (ownNumber mine))).2 = (r.act s).2.renumbered (ownNumber mine) := by
  rcases of_own first fair others with of | ⟨key, handle⟩
  · obtain ⟨_, _, alike, -⟩ := h.act_own of
    exact alike.2
  · rw [renumbered_common key handle, (h.act_common key handle).2 tells,
      renumbered_of_ne (common_handle key handle)]

/-- Both runs look the same to somebody who cares for the given queries and producers, and for the
    handles that are marked. -/
structure SameTo (keys : Key → Prop) (producers : Nat → Prop) (mine : List Bool) (r r₁ : Run α) :
    Prop where
  now : r.bench.now = r₁.bench.now
  entry : ∀ k, keys k → r.bench.cache.entry? k = r₁.bench.cache.entry? k
  subscribers : ∀ k, keys k → r.bench.cache.subscriberCount k = r₁.bench.cache.subscriberCount k
  producers : ∀ p, producers p → r.bench.producers[p]? = r₁.bench.producers[p]?
  handles : ∀ i, mine[i]? = some true →
    (r.handle? i).map (fun h => (h.key, h.seen, h.view r.bench.cache)) =
      (r₁.handle? (ownNumber mine i)).map fun h => (h.key, h.seen, h.view r₁.bench.cache)

omit [BEq α] in
theorem Shared.sameTo (h : Shared P T₁ T₂ mine r r₁ r₂) :
    SameTo P.first.keys P.first.producers mine r r₁ where
  now := h.bench.now.1
  entry _ own := h.bench.cache.entry? own
  subscribers _ own := h.bench.cache.subscriberCount own
  producers := h.bench.first
  handles i marked := by
    have own : mine[i]? ≠ some false := marked ▸ nofun
    refine rel_map_eq (h.handle? own) fun hd hd₁ like => ?_
    rw [like.key, like.seen, h.bench.cache.view like]

/-! ### Beginning -/

theorem unhurried_of_waits {done : List (Step α × Bool)} (waits : ∀ s ∈ done, s.1.waits = false) :
    Unhurried own r mine done := by
  rintro before s after rfl waiting
  have listed : (s, true) ∈ before ++ (s, true) :: after :=
    List.mem_append_right _ (List.mem_cons_self ..)
  exact nomatch (waits _ listed).symm.trans waiting

theorem tracked_fresh (grace : Nat) (producers : List (Producer α)) (now : Nat)
    (origin : Time.Stamp) : (Run.fresh grace producers now origin).Tracked :=
  punctual_steps rfl rfl []

/-- A run that nobody has used serves any two parties. -/
theorem shared_fresh (P : Parties) (grace : Nat) (producers : List (Producer α)) (now : Nat)
    (origin : Time.Stamp) :
    let r := Run.fresh grace producers now origin
    Shared P .none .none [] r r r := by
  intro r
  have tracked := tracked_fresh grace producers now origin
  have cache : Cache.Shared P .none .none r.bench.cache r.bench.cache r.bench.cache :=
    ⟨.none, .none, ⟨rfl, rfl⟩, ⟨rfl, rfl⟩, .nil, .nil, .nil⟩
  exact ⟨⟨⟨rfl, rfl⟩, ⟨rfl, rfl⟩, cache, fun _ _ => rfl, fun _ _ => rfl, tracked.followed,
    tracked.followed, tracked.followed⟩, .nil, tracked, tracked, tracked⟩

end Run

end TaskWatch.Bench
