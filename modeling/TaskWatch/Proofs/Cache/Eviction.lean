import TaskWatch.Proofs.Cache.Pending
import TaskWatch.Proofs.Cache.Punctual

/-! Eviction is exact.

    An entry disappears for one of three reasons: all entries are dropped, its last subscriber
    leaves a cache without grace, or the eviction that pends is due (`Step.loses`). From the other
    end, every eviction that pends goes back to the moment when the last subscriber left
    (`Punctual.origin`), and since nobody came in between, it pends until it is carried out
    (`Pends.bides`). What carries both is that a punctual course stands still at the end of the
    grace period until the eviction is done: `Lingers` says where the clock can be as long as it
    pends. -/

namespace TaskWatch.Cache

open Relation

variable {α : Type} {k : Key} {s : Slot α} {j : Job}

namespace Course

variable {w w' : Course α}

/-! ### Why an entry disappears -/

/-- The entry that the query had is gone: it has none, or one that was made since. -/
def Loses (k : Key) (w w' : Course α) : Prop :=
  ∃ s, w.cache.slots.find? k = some s ∧
    ∀ s', w'.cache.slots.find? k = some s' → s'.birth ≠ s.birth

/-- What has an entry evicted: without grace that the last subscriber leaves, and else the eviction
    that pends and is due. -/
def Cause (k : Key) (w w' : Course α) : Prop :=
  (w.cache.grace = 0 ∧ Deserted k w w') ∨
    ∃ s j, w.Pends k s j ∧ j.isDue w.now.elapsed = true

/-- An entry disappears as everything is dropped, or it is evicted, for which there is a cause. -/
theorem Step.loses (step : Step w w') (hw : w.Reachable) (loses : Loses k w w') :
    (∃ n, w'.past = n :: w.past ∧ (n.deed = .clear ∨ n.deed = .abandon)) ∨
      (Evicted k w w' ∧ Cause k w w') := by
  obtain ⟨s, there, gone⟩ := loses
  cases step.turn hw k with
  | spared spares quiet =>
    obtain ⟨s', there', same⟩ := spares.slot_there there
    exact (gone s' there' (congrArg Interest.birth same)).elim
  | joined past off there' attended birth => exact (gone _ there' (birth s there)).elim
  | left there₀ attended there' attended' birth =>
    obtain rfl := Option.some.inj (there₀.symm.trans there)
    exact (gone _ there' birth).elim
  | deserted deserted there₀ pends birth =>
    obtain rfl := Option.some.inj (there₀.symm.trans there)
    exact (gone _ pends.there birth).elim
  | hasty deserted hasty evicted => exact .inr ⟨evicted, .inl ⟨hasty, deserted⟩⟩
  | collected pends due evicted => exact .inr ⟨evicted, .inr ⟨_, _, pends, due⟩⟩
  | dropped past all => exact .inl ⟨_, past, all⟩

/-- Nothing was dropped with all others in a step that evicted an entry. -/
theorem Evicted.plain (e : Evicted k w w') {n : Note α} (past : w'.past = n :: w.past) :
    n.deed.sign? = none := by
  have signed := e.signed
  rw [history, past, List.flatMap_cons] at signed
  cases sign : n.deed.sign? with
  | none => rfl
  | some sign' =>
    rw [Note.signs, sign] at signed
    have same : (n.moment, sign') = (w.now, .evicted) := (List.cons.inj signed).1
    have drops : sign' = .evicted := congrArg Prod.snd same
    cases deed : n.deed <;> simp_all [Deed.sign?]

/-- An eviction is not forgotten. -/
theorem Evicted.remembered {v : Course α} (e : Evicted k w w') (hw : w.Reachable)
    (after : w'.Leads v) : (w.now, Sign.evicted) ∈ v.history k := by
  have hw' : w'.Reachable := hw.leads (.single e.step)
  have since : Cell.Leads k (w'.cell k) (v.cell k) := Course.Leads.cell after hw'.booked
  have suffix : w'.history k <:+ v.history k := since.history
  refine suffix.subset ?_
  rw [e.signed]
  exact List.mem_cons_self ..

theorem Evicted.cause (e : Evicted k w w') (hw : w.Reachable) : Cause k w w' := by
  obtain ⟨s, there⟩ := Option.isSome_iff_exists.mp e.there
  have loses : Loses k w w' := ⟨s, there, fun s' there' => nomatch e.gone.symm.trans there'⟩
  rcases e.step.loses hw loses with ⟨n, past, cleared | abandoned⟩ | ⟨-, cause⟩
  · exact nomatch (congrArg Deed.sign? cleared).symm.trans (e.plain past)
  · exact nomatch (congrArg Deed.sign? abandoned).symm.trans (e.plain past)
  · exact cause

end Course

/-! ### Evictions are counted -/

theorem Event.sign?_eq_evicted {e : Event} {answer : Option (Except String α)} :
    e.sign? k answer = some .evicted ↔ e = .evicted k := by
  cases e with
  | committed l g =>
    simp only [sign?, reduceCtorEq, iff_false]
    split
    · split <;> simp
    · simp
  | _ => simp [sign?]

/-- If all that was evicted are entries of one query, there are as many evictions as signs of the
    query that say so. -/
theorem countP_isEvicted {events : List Event} (answer : Option (Except String α))
    (own : ∀ l, .evicted l ∈ events → l = k) :
    events.countP Event.isEvicted =
      (events.filterMap (Event.sign? k answer)).countP (fun s => s matches .evicted) := by
  rw [List.countP_filterMap]
  refine List.countP_congr fun e he => ?_
  have reads (sign : Option (Sign α)) :
      (sign.map (fun s => s matches .evicted)).getD false = true ↔ sign = some .evicted := by
    cases sign with
    | none => simp
    | some s => cases s <;> simp
  rw [reads, Event.sign?_eq_evicted, Event.isEvicted_iff]
  constructor
  · rintro ⟨l, rfl⟩
    rw [own l he]
  · rintro rfl
    exact ⟨k, rfl⟩

/-- One deed evicts the entry of one query at most. -/
theorem Deed.Evicts.only {c : Cache α} {deed : Deed α} {l : Key} (h : deed.Evicts c k)
    (h' : deed.Evicts c l) : k = l := by
  cases h with
  | leave own => cases h' with | leave own' => exact own.symm.trans own'
  | collect listed own => cases h' with | collect listed' own' => exact own.symm.trans own'

namespace Course

variable {w w' w₁ w₂ : Course α} {n : Note α} {d : Nat}

/-- The deed is done that evicts the entry. -/
theorem Step.evicted (step : Step w w') (hw : w.Reachable) (past : w'.past = n :: w.past)
    (evicts : n.deed.Evicts w.cache k) : Evicted k w w' := by
  generalize deed : n.deed = d at evicts
  cases evicts with
  | leave own there member last hasty =>
    obtain ⟨i, alive, held, rfl⟩ := step.of_unsubscribe past deed
    exact own ▸ hw.evicted_hasty alive held there member last hasty
  | collect listed own there lonely pends duty =>
    obtain ⟨σ, supplier, state, -, due, rfl⟩ := step.of_run past deed
    obtain ⟨s, pends⟩ := hw.pends_of_collect listed duty
    exact own ▸ pends.evicted hw supplier state due

/-- The eviction is all that became of the query. -/
theorem Evicted.sole (e : Evicted k w w') (past : w'.past = n :: w.past) :
    n.events.filterMap (Event.sign? k n.deed.answer?) = [.evicted] := by
  have signed := e.signed
  rw [history, past, List.flatMap_cons] at signed
  have sole : n.signs k = [(w.now, .evicted)] := List.append_cancel_right signed
  rw [Note.signs, e.plain past, signs] at sole
  have sole' := congrArg (List.map Prod.snd) sole
  simpa using sole'

/-- Of every step the count of evictions tells whether it evicted the entry of some query. -/
theorem Step.counts (step : Step w w') (hw : w.Reachable) :
    (w'.cache.stats.evictions = w.cache.stats.evictions ∧ ∀ k, ¬ Evicted k w w') ∨
      (w'.cache.stats.evictions = w.cache.stats.evictions + 1 ∧ ∃! k, Evicted k w w') := by
  have noted {k : Key} {n : Note α} (e : Evicted k w w') (past : w'.past = n :: w.past) :
      .evicted k ∈ n.events := by
    have listed : .evicted ∈ n.events.filterMap (Event.sign? k n.deed.answer?) := by
      rw [e.sole past]
      exact List.mem_singleton_self _
    obtain ⟨event, listed, sign⟩ := List.mem_filterMap.mp listed
    exact Event.sign?_eq_evicted.mp sign ▸ listed
  rcases step.reports hw.booked with ⟨past, stats, -⟩ | ⟨n, past, tells⟩
  · refine .inl ⟨congrArg Stats.evictions stats, fun k e => ?_⟩
    have signed := e.signed
    rw [history, past] at signed
    exact List.cons_ne_self _ _ signed.symm
  · by_cases some : ∃ k, .evicted k ∈ n.events
    · obtain ⟨k, listed⟩ := some
      have e := step.evicted hw past (tells.evicted k listed)
      have own (l : Key) (listed' : .evicted l ∈ n.events) : l = k :=
        (tells.evicted l listed').only (tells.evicted k listed)
      refine .inr ⟨?_, k, e, fun l e' => own l (noted e' past)⟩
      rw [tells.counted, countP_isEvicted n.deed.answer? own, e.sole past]
      rfl
    · refine .inl ⟨?_, fun k e => some ⟨k, noted e past⟩⟩
      rw [tells.counted, List.countP_eq_zero.mpr, Nat.add_zero]
      intro event listed evicted
      obtain ⟨k, rfl⟩ := Event.isEvicted_iff.mp evicted
      exact some ⟨k, listed⟩

/-! ### The end of a grace period -/

/-- A step in which nothing calls off an eviction of the query. -/
structure Calm (k : Key) (w w' : Course α) : Prop extends Timely w w' where
  quiet : ∀ n, w'.past = n :: w.past → n.deed.callsOff k = false

/-- Since the first course nothing has called off an eviction of the query, and the clock has just
    come to `d`, or leapt over it: at that moment it still stands. -/
def Expires (k : Key) (d : Nat) (w₁ w : Course α) : Prop :=
  ∃ x x', ReflTransGen (Calm k) w₁ x ∧ x.now.elapsed < d ∧ Calm k x x' ∧ d ≤ x'.now.elapsed ∧
    ReflTransGen (Calm k) x' w ∧ w.now.elapsed = x'.now.elapsed

/-- Since the first course nothing has called off an eviction of the query, and the clock has not
    come to `d`, or it has and still stands. -/
structure Lingers (k : Key) (d : Nat) (w₁ w : Course α) : Prop where
  calm : ReflTransGen (Calm k) w₁ w
  early : w.now.elapsed < d ∨ Expires k d w₁ w

theorem Expires.ended (h : Expires k d w₁ w) : d ≤ w.now.elapsed := by
  obtain ⟨x, x', -, -, -, ended, -, same⟩ := h
  exact same ▸ ended

theorem timely_of_calm (run : ReflTransGen (Calm k) w w') : ReflTransGen Timely w w' :=
  ReflTransGen.mono (fun _ _ calm => calm.toTimely) _ _ run

theorem Expires.leads (h : Expires k d w₁ w) : w₁.Leads w := by
  obtain ⟨x, x', before, -, passes, -, since, -⟩ := h
  exact leads_of_timely (timely_of_calm ((before.tail passes).trans since))

/-- The eviction that pends is due when its time has come. -/
theorem Pends.isDue_iff {now : Nat} (due : j.due = some d) :
    j.isDue now = true ↔ d ≤ now := by
  simp [Job.isDue, due]

/-- As long as an eviction pends that is due, no timer is at rest. -/
theorem Pends.early (p : w.Pends k s j) (due : j.due = some d) (rested : w.Rested) :
    w.now.elapsed < d := by
  obtain ⟨token, duty, -⟩ := p.awaited
  have quiet := rested j p.listed (Job.isTimer_of_collect duty)
  by_contra late
  rw [(isDue_iff due).mpr (Nat.le_of_not_lt late)] at quiet
  exact nomatch quiet

/-- One calm step more, and an eviction that still pended before lingers. -/
theorem Lingers.step (h : Lingers k d w₁ w) (p : w.Pends k s j)
    (due : j.due = some d) (calm : Calm k w w') : Lingers k d w₁ w' := by
  refine ⟨h.calm.tail calm, ?_⟩
  rcases h.early with early | ⟨x, x', before, early, passes, ended, since, same⟩
  · by_cases ended : d ≤ w'.now.elapsed
    · exact .inr ⟨w, w', h.calm, early, calm, ended, .refl, rfl⟩
    · exact .inl (Nat.lt_of_not_le ended)
  · rcases calm.urgent with still | rested
    · exact .inr ⟨x, x', before, early, passes, ended, since.tail calm, still.trans same⟩
    · have early := p.early due rested
      omega

/-- Without grace, the entry is evicted at once that the last subscriber leaves. -/
theorem Deserted.hasty (deserted : Deserted k w w') (hw : w.Reachable)
    (hasty : w.cache.grace = 0) : Evicted k w w' := by
  obtain ⟨i, h, s, alive, held, rfl, there, member, last, rfl⟩ := deserted.last hw
  exact hw.evicted_hasty alive held there member last hasty

/-- With grace, the entry stays that the last subscriber leaves, and an eviction pends. -/
theorem Deserted.graceful (deserted : Deserted k w w') (hw : w.Reachable)
    (graceful : w.cache.grace ≠ 0) :
    ∃ s s' j, w.cache.slots.find? k = some s ∧ w'.Pends k s' j ∧ s'.birth = s.birth ∧
      j.due = some (w.now.elapsed + w.cache.grace) := by
  obtain ⟨i, h, s, alive, held, rfl, there, member, last, rfl⟩ := deserted.last hw
  obtain ⟨s', j, pends, birth, due, -⟩ := hw.pends_graceful _ there member last graceful
  exact ⟨s, s', j, there, pends, birth, due⟩

theorem Deserted.now (deserted : Deserted k w w') : w'.now = w.now := by
  obtain ⟨n, h, past, -⟩ := deserted.leaves
  exact deserted.step.now_of_booked past

theorem Step.grace (step : Step w w') (hw : w.Reachable) : w'.cache.grace = w.cache.grace := by
  rcases step.reports hw.booked with ⟨-, -, grace⟩ | ⟨n, -, tells⟩
  · exact grace
  · exact tells.grace

/-- In a punctual course every eviction that pends has lingered since the last subscriber left, and
    is due a grace period later. -/
theorem Punctual.origin (hw : w.Punctual) (p : w.Pends k s j) :
    ∃ w₀ w₁, w₀.Punctual ∧ Deserted k w₀ w₁ ∧
      j.due = some (w₀.now.elapsed + w.cache.grace) ∧
      Lingers k (w₀.now.elapsed + w.cache.grace) w₁ w := by
  obtain ⟨grace, now, run⟩ := hw
  induction run generalizing s with
  | refl => exact nomatch (fresh_vacant grace now k).symm.trans p.there
  | @tail v v' before timely ih =>
    have hv : v.Punctual := ⟨grace, now, before⟩
    rw [timely.step.grace hv.reachable]
    rcases timely.step.pended hv.reachable p with ⟨s₀, p₀, -, quiet⟩ | ⟨deserted, due, -⟩
    · obtain ⟨w₀, w₁, hw₀, deserted, due, lingers⟩ := ih p₀
      exact ⟨w₀, w₁, hw₀, deserted, due, lingers.step p₀ due ⟨timely, quiet⟩⟩
    · refine ⟨v, v', hv, deserted, due, .refl, .inl ?_⟩
      -- Without grace there would be no entry any more.
      have graceful : v.cache.grace ≠ 0 := fun hasty =>
        nomatch (deserted.hasty hv.reachable hasty).gone.symm.trans p.there
      rw [deserted.now]
      omega

/-! ### What comes of it if nobody comes in time -/

/-- A step in which nothing calls off an eviction of the query that is due at `d`, unless it had its
    chance: `d` has come, and no timer is due any more. -/
structure Bides (k : Key) (d : Nat) (w w' : Course α) : Prop extends Timely w w' where
  late : ∀ n, w'.past = n :: w.past → n.deed.callsOff k = true → d ≤ w.now.elapsed ∧ w.Rested

theorem timely_of_bides (run : ReflTransGen (Bides k d) w w') :
    ReflTransGen Timely w w' :=
  ReflTransGen.mono (fun _ _ bides => bides.toTimely) _ _ run

theorem elapsed_of_bides (run : ReflTransGen (Bides k d) w w') :
    w.now.elapsed ≤ w'.now.elapsed := by
  induction run with
  | refl => exact Nat.le_refl _
  | tail _ bides ih => exact Nat.le_trans ih bides.step.elapsed

/-- While nobody comes in time, an eviction pends until it is carried out, and that is when its time
    has come. -/
theorem Pends.bides (p : w₁.Pends k s j) (hw : w₁.Reachable)
    (due : j.due = some d) (early : w₁.now.elapsed < d) (run : ReflTransGen (Bides k d) w₁ w) :
    (∃ s', w.Pends k s' j ∧ s'.birth = s.birth ∧ Lingers k d w₁ w) ∨
      ∃ y z, Expires k d w₁ y ∧ Evicted k y z ∧ ReflTransGen (Bides k d) z w := by
  induction run with
  | refl => exact .inl ⟨s, p, rfl, .refl, .inl early⟩
  | @tail v v' before bides ih =>
    rcases ih with ⟨s', p', birth, lingers⟩ | ⟨y, z, expires, evicted, after⟩
    · have hv : v.Reachable := hw.leads (leads_of_timely (timely_of_bides before))
      have quiet : ∀ n, v'.past = n :: v.past → n.deed.callsOff k = false := by
        intro n past
        refine Bool.eq_false_iff.mpr fun off => ?_
        obtain ⟨late, rested⟩ := bides.late n past off
        have early := p'.early due rested
        omega
      rcases bides.step.pends hv p' with ⟨s'', p'', birth'⟩ | ⟨n, past, off⟩ | ⟨evicted, ended⟩
      · exact .inl ⟨s'', p'', birth'.trans birth, lingers.step p' due ⟨bides.toTimely, quiet⟩⟩
      · exact nomatch (quiet n past).symm.trans off
      · refine .inr ⟨v, v', lingers.early.resolve_left ?_, evicted, .refl⟩
        exact Nat.not_lt_of_le ((Pends.isDue_iff due).mp ended)
    · exact .inr ⟨y, z, expires, evicted, after.tail bides⟩

/-! ### Eviction is exact -/

/-- How entries of a query come to their end, seen from a course. A grace period that begins now
    ends at `w.now.elapsed + w.cache.grace`. -/
structure EvictsExactly (k : Key) (w : Course α) : Prop where
  /-- An entry disappears only when all entries are dropped, or by eviction. -/
  disappears : ∀ w', Step w w' → Loses k w w' →
    (∃ n, w'.past = n :: w.past ∧ (n.deed = .clear ∨ n.deed = .abandon)) ∨ Evicted k w w'
  /-- It is evicted only at the end of the grace period that began as the last subscriber left, and
      only if nothing called the eviction off until it was carried out. Nobody is interested in it
      then. The one exception is a cache without grace, where the entry is evicted as the last one
      leaves. -/
  only : ∀ w', Evicted k w w' →
    (w.cache.grace = 0 ∧ Deserted k w w') ∨
      (w.cache.subscriberCount k = 0 ∧ ∃ w₀ w₁, w₀.Punctual ∧ Deserted k w₀ w₁ ∧
        Expires k (w₀.now.elapsed + w.cache.grace) w₁ w)
  /-- Without grace, an entry is evicted at once. -/
  hasty : ∀ w', Deserted k w w' → w.cache.grace = 0 → Evicted k w w'
  /-- With grace, it stays until the grace period is over. -/
  kept : ∀ w' w₂, Deserted k w w' →
    ReflTransGen (Bides k (w.now.elapsed + w.cache.grace)) w' w₂ →
    w₂.now.elapsed < w.now.elapsed + w.cache.grace → ¬ Loses k w w₂
  /-- Then it is evicted, at the very moment, if nothing called the eviction off before. -/
  punctual : ∀ w' w₂, Deserted k w w' → w.cache.grace ≠ 0 →
    ReflTransGen (Bides k (w.now.elapsed + w.cache.grace)) w' w₂ →
    w.now.elapsed + w.cache.grace ≤ w₂.now.elapsed → w₂.Rested →
    ∃ y z, Expires k (w.now.elapsed + w.cache.grace) w' y ∧ Evicted k y z ∧
      ReflTransGen (Bides k (w.now.elapsed + w.cache.grace)) z w₂
  /-- One eviction pends for an entry without subscribers, and none for another. -/
  pending : ∀ s, w.cache.slots.find? k = some s →
    (w.evictions k).length = if s.subscribers = [] then 1 else 0
  /-- A token that no eviction carries that pends has nothing collected. -/
  outdated : ∀ token, (∀ j ∈ w.evictions k, j.duty ≠ .collect token) →
    w.cache.collect k token = w.cache
  /-- Once an eviction pends no more, none will carry its token. -/
  unique : ∀ w', w.Leads w' → ∀ j ∈ w.evictions k, ∀ i ∈ w'.evictions k, i.duty = j.duty → i = j
  /-- Evictions are counted, and nothing else is. -/
  counted : ∀ w', Step w w' →
    (w'.cache.stats.evictions = w.cache.stats.evictions ∧ ∀ l, ¬ Evicted l w w') ∨
      (w'.cache.stats.evictions = w.cache.stats.evictions + 1 ∧ ∃! l, Evicted l w w')

/-- When the last subscriber leaves, an entry stays until the grace period is over, if nobody comes
    in time. -/
theorem Deserted.kept (deserted : Deserted k w w') (hw : w.Reachable)
    (run : ReflTransGen (Bides k (w.now.elapsed + w.cache.grace)) w' w₂)
    (early : w₂.now.elapsed < w.now.elapsed + w.cache.grace) : ¬ Loses k w w₂ := by
  rintro ⟨s₀, there₀, gone⟩
  have later := elapsed_of_bides run
  rw [deserted.now] at later
  obtain ⟨s, s', j, there, p, birth, due⟩ := deserted.graceful hw (by omega)
  obtain rfl := Option.some.inj (there₀.symm.trans there)
  have hw' : w'.Reachable := hw.leads (.single deserted.step)
  rcases p.bides hw' due (by rw [deserted.now]; omega) run with
    ⟨s₂, p₂, birth', -⟩ | ⟨y, z, expires, evicted, after⟩
  · exact gone s₂ p₂.there (birth'.trans birth)
  · have ended := expires.ended
    have passed := evicted.step.elapsed
    have passed' := elapsed_of_bides after
    omega

/-- When the grace period is over and no timer is due any more, the entry has been evicted. -/
theorem Deserted.expired (deserted : Deserted k w w') (hw : w.Reachable)
    (graceful : w.cache.grace ≠ 0)
    (run : ReflTransGen (Bides k (w.now.elapsed + w.cache.grace)) w' w₂)
    (ended : w.now.elapsed + w.cache.grace ≤ w₂.now.elapsed) (rested : w₂.Rested) :
    ∃ y z, Expires k (w.now.elapsed + w.cache.grace) w' y ∧ Evicted k y z ∧
      ReflTransGen (Bides k (w.now.elapsed + w.cache.grace)) z w₂ := by
  obtain ⟨s, s', j, -, p, -, due⟩ := deserted.graceful hw graceful
  have hw' : w'.Reachable := hw.leads (.single deserted.step)
  rcases p.bides hw' due (by rw [deserted.now]; omega) run with ⟨s₂, p₂, -⟩ | evicted
  · have early := p₂.early due rested
    omega
  · exact evicted

/-- An entry is evicted as the last subscriber leaves, without grace, or at the end of a grace
    period in which nothing called the eviction off. -/
theorem Punctual.evicted (hw : w.Punctual) (evicted : Evicted k w w') :
    (w.cache.grace = 0 ∧ Deserted k w w') ∨
      (w.cache.subscriberCount k = 0 ∧ ∃ w₀ w₁, w₀.Punctual ∧ Deserted k w₀ w₁ ∧
        Expires k (w₀.now.elapsed + w.cache.grace) w₁ w) := by
  rcases evicted.cause hw.reachable with hasty | ⟨s, j, p, ended⟩
  · exact .inl hasty
  · obtain ⟨w₀, w₁, hw₀, deserted, due, lingers⟩ := hw.origin p
    refine .inr ⟨?_, w₀, w₁, hw₀, deserted, lingers.early.resolve_left ?_⟩
    · rw [subscriberCount_there p.there, p.lonely]
      rfl
    · exact Nat.not_lt_of_le ((Pends.isDue_iff due).mp ended)

/-- How many evictions pend for an entry. -/
theorem Reachable.length_evictions (hw : w.Reachable) (there : w.cache.slots.find? k = some s) :
    (w.evictions k).length = if s.subscribers = [] then 1 else 0 := by
  split
  · rename_i lonely
    obtain ⟨j, p⟩ := hw.pends_of_lonely there lonely
    rw [p.only hw]
    rfl
  · rename_i attended
    rw [hw.evictions_none]
    · rfl
    · intro s' there'
      rwa [← Option.some.inj (there.symm.trans there')]

end Course

/-- In every punctual course eviction is exact: for each query, whatever happens meanwhile, the
    entry is evicted at the end of the grace period that begins when its last subscriber leaves, if
    nobody subscribes and nothing is cleared until the eviction is carried out, and it is evicted at
    no other time. Whoever subscribes just as the period is over, but is quicker than the timer, is
    in time. -/
theorem eviction_exact {w : Course α} (hw : w.Punctual) (k : Key) : w.EvictsExactly k := by
  have hw' := hw.reachable
  constructor
  case disappears =>
    intro w' step loses
    exact (step.loses hw' loses).imp_right And.left
  case only =>
    intro w' evicted
    exact hw.evicted evicted
  case hasty =>
    intro w' deserted hasty
    exact deserted.hasty hw' hasty
  case kept =>
    intro w' w₂ deserted run early
    exact deserted.kept hw' run early
  case punctual =>
    intro w' w₂ deserted graceful run ended rested
    exact deserted.expired hw' graceful run ended rested
  case pending =>
    intro s there
    exact hw'.length_evictions there
  case outdated =>
    intro token outdated
    exact hw'.collect_outdated outdated
  case unique =>
    intro w' leads j hj i hi same
    exact hw'.same_eviction leads hj hi same
  case counted =>
    intro w' step
    exact step.counts hw'

/-- Nobody comes back to an entry that the last subscriber left at 0, and it is evicted at 300. -/
theorem lonely_entry_evicted_on_time :
    let w : Course Nat := .played 300 [.subscribe (.single "tasks") 0 {}, .run 1 0 (.ok 7),
      .run 1 0 (.ok 7)]
    w.Punctual ∧ ∃ y z, (w.play (.unsubscribe 0)).Leads y ∧ y.now.elapsed = 300 ∧
      Course.Evicted (.single "tasks") y z := by
  intro w
  have hw : w.Punctual := Course.punctual_played (by decide)
  refine ⟨hw, ?_⟩
  let w' := w.play (.unsubscribe 0)
  let w₁ := w'.play (.pass 300)
  let w₂ := w₁.play (.run 2 0 (.ok 0))
  have leaves : Course.Step w w' := Course.step_of_moved w _ (by decide)
  have passes : Course.Step w' w₁ := Course.step_of_moved w' _ (by decide)
  have collects : Course.Step w₁ w₂ := Course.step_of_moved w₁ _ (by decide)
  have deserted : Course.Deserted (.single "tasks") w w' :=
    ⟨leaves, by decide, ⟨_, _, rfl, rfl, rfl⟩, by decide⟩
  have first : Course.Bides (.single "tasks") 300 w' w₁ := by
    refine ⟨⟨passes, .inr (by decide)⟩, fun n past => ?_⟩
    exact absurd (congrArg Time.Instant.elapsed (passes.now_of_booked past)) (by decide)
  have second : Course.Bides (.single "tasks") 300 w₁ w₂ := by
    refine ⟨⟨collects, .inl (by decide)⟩, fun n past off => ?_⟩
    obtain rfl := (List.cons.inj past).1
    exact nomatch off
  obtain ⟨y, z, expires, evicted, after⟩ := (eviction_exact hw (.single "tasks")).punctual w' w₂
    deserted (by decide) ((ReflTransGen.single first).tail second) (by decide) (by decide)
  refine ⟨y, z, expires.leads, ?_, evicted⟩
  have ended : 300 ≤ y.now.elapsed := expires.ended
  have passed := evicted.step.elapsed
  have passed' := Course.elapsed_of_bides after
  have last : w₂.now.elapsed = 300 := by decide
  omega

/-- It is not enough for an eviction that nobody subscribes before the grace period is over:
    somebody who subscribes at the very moment, before the timer runs, keeps the entry. -/
theorem quick_subscriber_keeps_entry : ¬ ∀ (w w' w₂ : Course Nat) (k : Key), w.Punctual →
    w.cache.grace ≠ 0 → w.Deserted k w' →
    ReflTransGen (fun x x' => x.Timely x' ∧ ∀ n, x'.past = n :: x.past →
      n.deed.callsOff k = true → w.now.elapsed + w.cache.grace ≤ x.now.elapsed) w' w₂ →
    w.now.elapsed + w.cache.grace ≤ w₂.now.elapsed → w₂.Rested →
    ∃ y z, w'.Leads y ∧ Course.Evicted k y z ∧ z.Leads w₂ := by
  intro claim
  let k : Key := .single "tasks"
  let w : Course Nat :=
    .played 1000 [.subscribe k 0 { stale := 60000 }, .run 1 0 (.ok 1), .run 1 0 (.ok 1)]
  let w' := w.play (.unsubscribe 0)
  let w₁ := w'.play (.pass 1000)
  let w₂ := w₁.play (.subscribe k 0 { stale := 60000 })
  have hw : w.Punctual := Course.punctual_played (by decide)
  have leaves : Course.Step w w' := Course.step_of_moved w _ (by decide)
  have passes : Course.Step w' w₁ := Course.step_of_moved w' _ (by decide)
  have comes : Course.Step w₁ w₂ := Course.step_of_moved w₁ _ (by decide)
  have deserted : Course.Deserted k w w' :=
    ⟨leaves, by decide, ⟨_, _, rfl, rfl, rfl⟩, by decide⟩
  have timely : w'.Timely w₁ := ⟨passes, .inr (by decide)⟩
  have unbooked (n : Note Nat) (past : w₁.past = n :: w'.past) : False :=
    absurd (congrArg Time.Instant.elapsed (passes.now_of_booked past)) (by decide)
  have timely' : w₁.Timely w₂ := ⟨comes, .inl (by decide)⟩
  have late : w.now.elapsed + w.cache.grace ≤ w₁.now.elapsed := by decide
  obtain ⟨y, z, before, evicted, after⟩ := claim w w' w₂ k hw (by decide) deserted
    ((ReflTransGen.single ⟨timely, fun n past _ => (unbooked n past).elim⟩).tail
      ⟨timely', fun _ _ _ => late⟩) (by decide) (by decide)
  have hw' : w'.Reachable := hw.reachable.leads (.single leaves)
  have unevicted : ∀ x ∈ w₂.history k, x.2 ≠ .evicted := by decide
  exact unevicted _ (evicted.remembered (hw'.leads before) after) rfl

end TaskWatch.Cache
