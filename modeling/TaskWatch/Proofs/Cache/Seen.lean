import TaskWatch.Proofs.Cache.Accounted

/-! What the holder of a handle sees.

    A change of an entry is published when a fetch starts, succeeds or fails, and the version of the
    entry counts these signs in its own time. A handle marks the version up to which its holder has
    seen the entry: first the one before the handle was given out, then the one at each look. So
    as long as the entry is there, something new can be seen just when a change was published since
    the last mark (`Marked`). When all entries are dropped, what was published last remains of the
    entry, under the number of the subscriber that it was made for. No other entry is made for that
    subscriber, so the handle shows what remains and nothing else. -/

namespace TaskWatch.Cache

open Relation

variable {α : Type} {k : Key} {c : Cache α} {s : Slot α} {h : Handle}

/-! ### Changes that are published -/

/-- A change of the entry was published. -/
def Sign.publishes : Sign α → Bool
  | .started _ => true
  | .succeeded _ _ => true
  | .failed _ _ => true
  | _ => false

namespace History

/-- How many changes of the entry that there is now were published. -/
def published (h : History α) : Nat := (life h).countP (fun x => x.2.publishes)

theorem life_cons {x : Time.Instant × Sign α} (h : History α) (kept : x.2.drops = false) :
    life (x :: h) = x :: life h := by
  obtain ⟨t, sign⟩ := x
  cases sign with
  | evicted => exact nomatch kept
  | cleared => exact nomatch kept
  | _ => rfl

/-- What became of an entry that is still there belongs to its own time. -/
theorem life_append {since earlier : History α} (kept : ∀ x ∈ since, x.2.drops = false) :
    life (since ++ earlier) = since ++ life earlier := by
  induction since with
  | nil => rfl
  | cons x rest ih =>
    obtain ⟨kept, rest_kept⟩ := List.forall_mem_cons.mp kept
    rw [List.cons_append, life_cons _ kept, ih rest_kept, List.cons_append]

theorem published_cons {x : Time.Instant × Sign α} (h : History α) (kept : x.2.drops = false) :
    published (x :: h) = published h + x.2.publishes.toNat := by
  rw [published, life_cons h kept, List.countP_cons]
  cases x.2.publishes <;> rfl

theorem published_append {since earlier : History α} (kept : ∀ x ∈ since, x.2.drops = false) :
    published (since ++ earlier) = since.countP (fun x => x.2.publishes) + published earlier := by
  rw [published, life_append kept, List.countP_append]
  rfl

end History

/-- The version of an entry is the number of changes that were published in its time. -/
structure Cell.Versioned (c : Cell α) : Prop where
  vacant : c.slot = none → c.history.life = []
  there : ∀ s, c.slot = some s → s.version = c.history.published

theorem Cell.Step.versioned {c c' : Cell α} (h : Cell.Step k c c') (inv : c.Versioned) :
    c'.Versioned := by
  -- What becomes of an entry counts if it is published.
  have counted {s s' : Slot α} {x : Time.Instant × Sign α} (slot : c'.slot = some s')
      (history : c'.history = x :: c.history) (there : c.slot = some s) (kept : x.2.drops = false)
      (version : s'.version = s.version + x.2.publishes.toNat) : c'.Versioned := by
    refine ⟨fun vacant => (nomatch vacant.symm.trans slot), fun s'' there' => ?_⟩
    obtain rfl := Option.some.inj (slot.symm.trans there')
    rw [history, History.published_cons _ kept, version, inv.there s there]
  cases h with
  | pass later => exact ⟨inv.vacant, inv.there⟩
  | number more => exact ⟨inv.vacant, inv.there⟩
  | found id producer job subscribers vacant new =>
    refine ⟨nofun, fun s there => ?_⟩
    obtain rfl := Option.some.inj there
    rw [History.published_cons _ rfl, History.published, inv.vacant vacant]
    rfl
  | @adjust s producer subscribers timer eviction there =>
    refine ⟨nofun, fun s' there' => ?_⟩
    obtain rfl := Option.some.inj there'
    exact inv.there s there
  | mark there => exact counted rfl rfl there rfl rfl
  | start g job there new => exact counted rfl rfl there rfl rfl
  | succeed a there flying => exact counted rfl rfl there rfl rfl
  | fail message there flying => exact counted rfl rfl there rfl rfl
  | evict there lonely => exact ⟨fun _ => rfl, fun _ there => by cases there⟩
  | clear => exact ⟨fun _ => rfl, fun _ there => by cases there⟩

theorem Cell.Leads.versioned {c c' : Cell α} (h : Cell.Leads k c c') (inv : c.Versioned) :
    c'.Versioned := by
  induction h with
  | refl => exact inv
  | tail _ step ih => exact step.versioned ih

theorem Course.Reachable.versioned {w : Course α} (hw : w.Reachable) : (w.cell k).Versioned := by
  obtain ⟨grace, now, h⟩ := hw
  have fresh : ((Course.fresh grace now).cell k : Cell α).Versioned :=
    ⟨fun _ => rfl, fun s there => (nomatch (Course.fresh_vacant grace now k).symm.trans there)⟩
  exact (Course.Leads.cell h rfl : Cell.Leads k _ _).versioned fresh

/-! ### A handle on an entry that is there -/

/-- All entries were dropped after the handle with this number was given out. -/
def clearedSince (i : Nat) : List (Note α) → Bool
  | [] => false
  | n :: rest => decide (i < givenOut rest) && (n.deed.sign?.isSome || clearedSince i rest)

theorem entry_there (there : c.slots.find? k = some s) :
    c.entry? k = some s.entry := by
  unfold entry?
  rw [there]
  rfl

theorem Handle.view_there (there : c.slots.find? h.key = some s) (same : s.birth = h.birth) :
    h.view c = some (s.entry, s.version, true) := by
  have kept : (c.slots.find? h.key).filter (fun s => s.birth == h.birth) = some s := by
    simp [there, Option.filter, same]
  rw [view, kept]

namespace Course

variable {w w' w₀ w₁ : Course α} {n : Note α} {i : Nat}

/-- An entry with a holder who keeps the handle is not evicted. -/
theorem Evicted.holder_gone (e : Evicted k w w') (hw : w.Reachable) (listed : i ∈ handed k w.past)
    (held : w.holder? i = some h) : w'.holder? i = none := by
  obtain ⟨s, before, behind, interval, there, -, -, split, -⟩ :=
    hw.row (mem_holders.mpr ⟨i, listed, held⟩)
  rcases e.cause hw with ⟨-, deserted⟩ | ⟨s', j, pends, -⟩
  · obtain ⟨i', h', s', -, held', rfl, there', -, last, rfl⟩ := deserted.last hw
    obtain rfl := Option.some.inj (there.symm.trans there')
    -- Nobody stays, so the one who left is the holder.
    have same : h.subscriber = h'.subscriber := by
      by_contra other
      have stays : (h.subscriber, interval) ∈ s.staying h'.subscriber :=
        List.mem_filter.mpr ⟨by simp [split], bne_iff_ne.mpr other⟩
      simp [last] at stays
    obtain rfl := hw.distinct.apart i i' h h' held (heldAt_eq_some.mpr held') same
    exact (heldAt_set held' none i).trans (if_pos rfl)
  · obtain rfl := Option.some.inj (there.symm.trans pends.there)
    simp [pends.lonely] at split

/-- A handle that is kept is on the entry that there is now, unless all entries were dropped. -/
theorem Step.handed_kept (step : Step w w') (hw : w.Reachable) (listed : i ∈ handed k w.past)
    (held : w.holder? i = some h) (held' : w'.holder? i ≠ none)
    (plain : ∀ n, w'.past = n :: w.past → n.deed.sign? = none) : i ∈ handed k w'.past := by
  rcases step.books with past | ⟨n, past⟩
  · rwa [past]
  · have kept : n.drops k = false := by
      refine Bool.eq_false_iff.mpr fun drops => ?_
      obtain ⟨s, -, -, -, there, -⟩ := hw.row (mem_holders.mpr ⟨i, listed, held⟩)
      have gone := step.dropped hw past drops
      have loses : Loses k w w' := ⟨s, there, fun s' there' => nomatch gone.symm.trans there'⟩
      rcases step.loses hw loses with ⟨n', past', all⟩ | ⟨evicted, -⟩
      · have sign := plain n' past'
        rcases all with all | all <;> simp [all, Deed.sign?] at sign
      · exact held' (evicted.holder_gone hw listed held)
    rw [past, handed, if_neg (Bool.eq_false_iff.mp kept)]
    split
    · exact List.mem_append_left _ listed
    · exact listed

end Course

/-- A deed that drops all entries drops that of every query. -/
theorem Note.drops_of_sign {n : Note α} (said : n.deed.sign?.isSome = true) (k : Key) :
    n.drops k = true := by
  refine List.any_eq_true.mpr ⟨(n.moment, .cleared), List.mem_append_left _ ?_, rfl⟩
  cases deed : n.deed with
  | clear => exact List.mem_singleton_self _
  | abandon => exact List.mem_singleton_self _
  | _ => simp [deed, Deed.sign?] at said

theorem clearedSince_of_handed {i : Nat} : ∀ {past : List (Note α)}, i ∈ handed k past →
    clearedSince i past = false
  | n :: rest, hi => by
    rw [clearedSince, Bool.and_eq_false_iff, decide_eq_false_iff_not]
    refine or_iff_not_imp_left.mpr fun before => ?_
    have hi : i ∈ handed k ([n] ++ rest) := hi
    obtain ⟨listed, kept⟩ := handed_append hi (Decidable.not_not.mp before)
    have kept := kept n (List.mem_singleton_self n)
    rw [clearedSince_of_handed listed, Bool.or_false]
    exact Bool.eq_false_iff.mpr fun said =>
      Bool.false_ne_true (kept.symm.trans (Note.drops_of_sign said k))

namespace Course

variable {w w' w₀ w₁ : Course α} {n : Note α} {i : Nat}

theorem Distinct.lt (inv : Distinct w) (held : w.holder? i = some h) : i < givenOut w.past := by
  obtain ⟨inside, -⟩ := List.getElem?_eq_some_iff.mp (heldAt_eq_some.mp held)
  exact inv.given ▸ inside

/-- A handle that is held is on the entry that its query has now, unless all entries were dropped
    since it was given out. -/
theorem Reachable.handed_iff (hw : w.Reachable) (held : w.holder? i = some h) :
    i ∈ handed h.key w.past ↔ clearedSince i w.past = false := by
  refine ⟨clearedSince_of_handed, fun kept => ?_⟩
  obtain ⟨grace, now, run⟩ := hw
  induction run generalizing h with
  | refl => exact nomatch heldAt_eq_some.mp held
  | @tail w w' before step ih =>
    have hw : w.Reachable := ⟨grace, now, before⟩
    rcases step.held_before held with ⟨h', held', ticket⟩ | ⟨last, -, -, n, past, joins⟩
    · have older := hw.distinct.lt held'
      have key : h.key = h'.key := congrArg Ticket.key ticket
      have kept' : clearedSince i w.past = false ∧ ∀ n, w'.past = n :: w.past → n.deed.sign? = none := by
        rcases step.books with past | ⟨n, past⟩
        · exact ⟨past ▸ kept, fun n past' => (List.cons_ne_self _ _ (past'.symm.trans past)).elim⟩
        · rw [past, clearedSince, decide_eq_true older, Bool.true_and, Bool.or_eq_false_iff,
            Option.isSome_eq_false_iff, Option.isNone_iff_eq_none] at kept
          exact ⟨kept.2, fun n' past' => (List.cons.inj (past.symm.trans past')).1 ▸ kept.1⟩
      rw [key]
      exact step.handed_kept hw (ih held' kept'.1) held' (by simp [held]) kept'.2
    · have there := step.there_of_joins past joins
      have kept : n.drops h.key = false := Bool.eq_false_iff.mpr fun drops =>
        Option.some_ne_none _ (there.choose_spec.symm.trans (step.dropped hw past drops))
      rw [past, handed, kept, joins, last, hw.distinct.given]
      exact List.mem_append_right _ (List.mem_singleton_self _)

/-- The step leaves the handle with the number as it is. -/
def Leaves (i : Nat) (w w' : Course α) : Prop := Step w w' ∧ w'.holder? i = w.holder? i

/-- The handle with the number was marked in the step after the first course, and then left as it was
    up to the second. -/
def Marked (i : Nat) (w₀ w : Course α) : Prop :=
  ∃ w₁, Marks i w₀ w₁ ∧ ReflTransGen (Leaves i) w₁ w

theorem leads_of_leaves (h : ReflTransGen (Leaves i) w w') : w.Leads w' :=
  ReflTransGen.mono (fun _ _ step => step.1) _ _ h

theorem holder?_of_leaves (h : ReflTransGen (Leaves i) w w') : w'.holder? i = w.holder? i := by
  induction h with
  | refl => rfl
  | tail _ step ih => exact step.2.trans ih

/-- A handle that is held was marked before. -/
theorem Reachable.marked_handle (hw : w.Reachable) (held : w.holder? i = some h) :
    ∃ w₀, w₀.Reachable ∧ Marked i w₀ w := by
  obtain ⟨grace, now, run⟩ := hw
  induction run generalizing h with
  | refl => exact nomatch heldAt_eq_some.mp held
  | @tail w w' before step ih =>
    rcases step.held held with held' | marks
    · obtain ⟨w₀, hw₀, w₁, marks, left⟩ := ih held'
      exact ⟨w₀, hw₀, w₁, marks, left.tail ⟨step, held.trans held'.symm⟩⟩
    · exact ⟨w, ⟨grace, now, before⟩, w', marks, .refl⟩

/-! ### What was published since -/

/-- Nothing that is new was seen when the handle was given out. -/
theorem seen_subscribe {c' : Cache α} {producer : Nat} {o : Options}
    (done : w.cache.subscribe w.now k producer o = .ok (c', h)) (hw : w.Reachable) :
    h.seen = (w.history k).published := by
  have valid := valid_of_subscribe done
  cases hs : w.cache.slots.find? k with
  | none =>
    rw [subscribe_vacant valid hs, Except.ok.injEq, Prod.mk.injEq] at done
    obtain ⟨-, rfl⟩ := done
    rw [History.published, show (w.history k).life = [] from hw.versioned.vacant hs]
    rfl
  | some s =>
    rw [subscribe_there valid hs, Except.ok.injEq, Prod.mk.injEq] at done
    obtain ⟨-, rfl⟩ := done
    exact hw.versioned.there s hs

/-- What is seen through a handle on an entry that is there. -/
theorem Reachable.view (hw : w.Reachable) (held : w.holder? i = some h)
    (listed : i ∈ handed h.key w.past) :
    ∃ s, w.cache.slots.find? h.key = some s ∧ s.birth = h.birth ∧
      h.view w.cache = some (s.entry, (w.history h.key).published, true) := by
  obtain ⟨s, -, -, -, there, -, birth, -⟩ := hw.row (mem_holders.mpr ⟨i, listed, held⟩)
  refine ⟨s, there, birth, ?_⟩
  rw [Handle.view_there there birth, 
    show s.version = (w.history h.key).published from hw.versioned.there s there]

/-- What is booked without dropping the entry adds signs in its own time. -/
theorem history_of_kept {newer : List (Note α)} (past : w.past = newer ++ w₀.past)
    (kept : ∀ n ∈ newer, n.drops k = false) :
    ∃ since, w.history k = since ++ w₀.history k ∧ ∀ x ∈ since, x.2.drops = false := by
  refine ⟨newer.flatMap (Note.signs k), ?_, fun x hx => ?_⟩
  · rw [history, past, List.flatMap_append]
    rfl
  · obtain ⟨n, hn, hx⟩ := List.mem_flatMap.mp hx
    exact Bool.eq_false_iff.mpr fun drops =>
      Bool.false_ne_true ((kept n hn).symm.trans (List.any_eq_true.mpr ⟨x, hx, drops⟩))

/-- From a mark on the entry stays, and the handle tells up to where it was seen then. -/
theorem Marked.since (m : Marked i w₀ w) (hw₀ : w₀.Reachable) (held : w.holder? i = some h)
    (listed : i ∈ handed h.key w.past) :
    h.seen = (w₀.history h.key).published ∧ ∃ since, w.history h.key = since ++ w₀.history h.key ∧
      ∀ x ∈ since, x.2.drops = false := by
  obtain ⟨w₁, marks, left⟩ := m
  have hw₁ : w₁.Reachable := hw₀.leads (.single marks.step)
  rw [holder?_of_leaves left] at held
  obtain ⟨newer, past⟩ := Leads.books (leads_of_leaves left)
  rw [past] at listed
  obtain ⟨listed, kept⟩ := handed_append listed (hw₁.distinct.lt held)
  cases marks with
  | @given c h' k producer o alive done next =>
    replace held : heldAt (w₀.handles ++ [some h']) i = some h := held
    rw [heldAt_append, if_pos next] at held
    obtain rfl := Option.some.inj held
    obtain ⟨-, rfl, -⟩ := tickets_subscribe done
    -- The note that the handle was given out does not drop the entry either.
    let n : Note α := ⟨w₀.now, .subscribe h'.key producer o, c.journal⟩
    replace listed : i ∈ handed h'.key (n :: w₀.past) := listed
    replace past : w.past = newer ++ n :: w₀.past := past
    have kept' : n.drops h'.key = false := by
      refine Bool.eq_false_iff.mpr fun drops => ?_
      rw [handed, if_pos drops] at listed
      exact List.not_mem_nil listed
    have past' : w.past = (newer ++ [n]) ++ w₀.past := by rw [past, List.append_assoc]; rfl
    exact ⟨seen_subscribe done hw₀, history_of_kept past'
      (List.forall_mem_append.mpr ⟨kept, List.forall_mem_singleton.mpr kept'⟩)⟩
  | @looked h' held' =>
    replace held : heldAt (w₀.handles.set i (some (h'.caughtUp w₀.cache))) i = some h := held
    rw [heldAt_set held', if_pos rfl] at held
    obtain rfl := Option.some.inj held
    have key : (h'.caughtUp w₀.cache).key = h'.key :=
      congrArg Ticket.key (h'.ticket_caughtUp w₀.cache)
    rw [key] at listed kept ⊢
    obtain ⟨s, there, birth, view⟩ := hw₀.view (heldAt_eq_some.mpr held') listed
    exact ⟨by rw [Handle.caughtUp, view], history_of_kept past kept⟩

/-- The holder of a handle on an entry that is there sees something new just when a change was
    published since the handle was last marked. -/
theorem Marked.hasChanged_iff (m : Marked i w₀ w) (hw₀ : w₀.Reachable) (hw : w.Reachable)
    (held : w.holder? i = some h) (listed : i ∈ handed h.key w.past) :
    ∃ since, w.history h.key = since ++ w₀.history h.key ∧ (∀ x ∈ since, x.2.drops = false) ∧
      (h.hasChanged w.cache = true ↔ ∃ x ∈ since, x.2.publishes = true) := by
  obtain ⟨seen, since, history, kept⟩ := m.since hw₀ held listed
  obtain ⟨s, there, birth, view⟩ := hw.view held listed
  refine ⟨since, history, kept, ?_⟩
  rw [Handle.hasChanged, view, seen, history, History.published_append kept, ← List.countP_pos_iff]
  simp only [Bool.true_and, bne_iff_ne]
  omega

end Course

/-! ### A handle on an entry that was dropped -/

/-- What a handle shows whose entry was dropped. -/
theorem Registered.view_gone {r : Remains α} (inv : c.Registered) (remains : r ∈ c.remains)
    (birth : r.birth = h.birth) : h.view c = some (r.entry, r.version, false) := by
  obtain ⟨-, once, apart⟩ := List.nodup_append.mp inv.births
  have other : (c.slots.find? h.key).filter (fun s => s.birth == h.birth) = none := by
    refine Option.filter_eq_none_iff.mpr fun s there same => ?_
    exact apart _ (List.mem_map_of_mem (mem_roster there)) _ (List.mem_map_of_mem remains)
      ((beq_iff_eq.mp same).trans birth.symm)
  have found : c.remains.find? (fun r => r.birth == h.birth) = some r := by
    cases first : c.remains.find? (fun r => r.birth == h.birth) with
    | none =>
      have := List.find?_eq_none.mp first r remains
      simp [birth] at this
    | some r' =>
      have same : r'.birth = h.birth := by simpa using List.find?_some first
      rw [List.inj_on_of_nodup_map once (List.mem_of_find?_eq_some first) remains
        (same.trans birth.symm)]
  rw [Handle.view, other]
  simp [found]

namespace Course

variable {w w' w₁ w₂ w₃ : Course α} {n : Note α} {i : Nat} {r : Remains α} {h' : Handle}

/-- What remains of an entry remains for good. -/
theorem Effect.remains_kept (e : Effect w w') (remains : r ∈ w.cache.remains) :
    r ∈ w'.cache.remains := by
  cases e with
  | changed deed handles plain changes => exact changes.remains ▸ remains
  | dropped deed abandoned events said plain =>
    show r ∈ (w.cache.dropEntries w.now).remains
    rw [dropEntries_eq]
    exact List.mem_append_right _ remains
  | answered waits calls => exact remains
  | passed now handles later => exact remains

/-- The entry of the handle was dropped, and this remains of it. The handle is as it was then, or its
    holder has looked at what remains. -/
structure Lost (i : Nat) (h : Handle) (r : Remains α) (w : Course α) : Prop where
  remains : r ∈ w.cache.remains
  birth : r.birth = h.birth
  given : i < w.handles.length
  held : ∀ h', w.holder? i = some h' → h' = h ∨ h' = { h with seen := r.version }

theorem Lost.view (inv : Lost i h r w) (hw : w.Reachable) (held : w.holder? i = some h') :
    h'.view w.cache = some (r.entry, r.version, false) := by
  refine hw.registered.view_gone inv.remains (inv.birth.trans ?_)
  rcases inv.held h' held with rfl | rfl <;> rfl

/-- The next change that is told of an entry that was dropped. -/
theorem Lost.change? (inv : Lost i h r w) (hw : w.Reachable) (held : w.holder? i = some h') :
    h'.change? w.cache =
      some (if h'.seen != r.version then .ok r.entry else .error (.closed h.key)) := by
  have key : h'.key = h.key := by rcases inv.held h' held with rfl | rfl <;> rfl
  rw [Handle.change?, inv.view hw held, key]
  dsimp only
  cases h'.seen != r.version <;> rfl

/-- When all entries are dropped, what was published last remains for the holder of a handle. -/
theorem Reachable.lost (hw : w.Reachable) (step : Step w w') (past : w'.past = n :: w.past)
    (said : n.deed.sign?.isSome = true) (held : w.holder? i = some h)
    (there : w.cache.slots.find? h.key = some s) (birth : s.birth = h.birth) :
    Lost i h s.remains w' := by
  obtain ⟨-, remains, handles⟩ := step.cleared past said
  refine ⟨?_, birth, ?_, fun h' held' => .inl ?_⟩
  · rw [remains]
    refine List.mem_append_left _ (List.mem_map_of_mem ?_)
    exact List.mem_map_of_mem (f := Prod.snd) (hw.registered.find?_iff.mp there)
  · rw [handles]
    exact (List.getElem?_eq_some_iff.mp (heldAt_eq_some.mp held)).1
  · rw [holder?, handles] at held'
    exact Option.some.inj (held'.symm.trans held)

/-- Whoever looks at what remains of an entry has seen all of it. -/
theorem Marks.lost (marks : Marks i w w') (hw : w.Reachable) (inv : Lost i h r w) :
    Lost i { h with seen := r.version } r w' := by
  cases marks with
  | given k producer o alive done next => exact absurd inv.given (next ▸ Nat.lt_irrefl _)
  | @looked h₀ held =>
    refine ⟨inv.remains, inv.birth, by simpa using inv.given, fun h' held' => .inl ?_⟩
    replace held' : heldAt (w.handles.set i (some (h₀.caughtUp w.cache))) i = some h' := held'
    rw [heldAt_set held, if_pos rfl, Handle.caughtUp,
      inv.view hw (heldAt_eq_some.mpr held)] at held'
    obtain rfl := Option.some.inj held'
    rcases inv.held h₀ (heldAt_eq_some.mpr held) with rfl | rfl <;> rfl

theorem Step.handles_le (step : Step w w') : w.handles.length ≤ w'.handles.length := by
  cases step with
  | subscribe k producer o alive done => simp
  | unsubscribe i alive held => simp
  | look i held => simp
  | forget i gone => simp
  | _ => exact Nat.le_refl _

theorem Step.lost (step : Step w w') (hw : w.Reachable) (inv : Lost i h r w) : Lost i h r w' := by
  refine ⟨step.effect.remains_kept inv.remains, inv.birth,
    Nat.lt_of_lt_of_le inv.given step.handles_le, fun h' held => ?_⟩
  rcases step.held held with held | marks
  · exact inv.held h' held
  · have caught := marks.lost hw inv
    exact .inr ((caught.held h' held).elim id id)

theorem Leads.lost (leads : w.Leads w') (hw : w.Reachable) (inv : Lost i h r w) :
    Lost i h r w' := by
  induction leads with
  | refl => exact inv
  | tail before step ih => exact step.lost (hw.leads before) ih

end Course

/-- Handles are coherent with the cache. In every reachable course, as long as not all entries were
    dropped since a handle was given out, it shows the entry of its query, and something new is there
    to see just when a start or an end of a fetch was published since the handle was last marked.
    Once all entries are dropped, it shows what was published last for good; nothing new will be
    there, and the next change is told once more at most, if it had not been seen: after another
    look there is only the news that none can follow. -/
theorem handles_coherent {w : Course α} (hw : w.Reachable) {i : Nat} {h : Handle}
    (held : w.holder? i = some h) :
    (clearedSince i w.past = false →
      (∃ e, h.current w.cache = some e ∧ w.cache.entry? h.key = some e) ∧
      (∃ w₀, w₀.Reachable ∧ Course.Marked i w₀ w) ∧
      ∀ w₀, w₀.Reachable → Course.Marked i w₀ w →
        ∃ since, w.history h.key = since ++ w₀.history h.key ∧
          (∀ x ∈ since, x.2.drops = false) ∧
          (h.hasChanged w.cache = true ↔ ∃ x ∈ since, x.2.publishes = true)) ∧
    ∀ w' n, clearedSince i w.past = false → Course.Step w w' → w'.past = n :: w.past →
      n.deed.sign?.isSome = true → ∃ e, w.cache.entry? h.key = some e ∧
        (∀ w₁ h₁, w'.Leads w₁ → w₁.holder? i = some h₁ →
          h₁.current w₁.cache = some e ∧ h₁.hasChanged w₁.cache = false ∧
          (h₁.change? w₁.cache = some (.error (.closed h.key)) ∨
            h.hasChanged w.cache = true ∧ h₁.change? w₁.cache = some (.ok e))) ∧
        (∀ w₁, ReflTransGen (Course.Leaves i) w' w₁ → w₁.holder? i = some h ∧
          h.change? w₁.cache =
            some (if h.hasChanged w.cache then .ok e else .error (.closed h.key))) ∧
        ∀ w₁ w₂ w₃ h₃, w'.Leads w₁ → Course.Marks i w₁ w₂ → w₂.Leads w₃ →
          w₃.holder? i = some h₃ → h₃.change? w₃.cache = some (.error (.closed h.key)) := by
  refine ⟨fun kept => ?_, fun w' n kept step past said => ?_⟩
  · have listed := (hw.handed_iff held).mpr kept
    obtain ⟨s, there, birth, view⟩ := hw.view held listed
    refine ⟨⟨s.entry, Handle.current_there there birth, entry_there there⟩,
      hw.marked_handle held, fun w₀ hw₀ marked => marked.hasChanged_iff hw₀ hw held listed⟩
  · obtain ⟨s, there, birth, -⟩ := hw.view held ((hw.handed_iff held).mpr kept)
    have hw' : w'.Reachable := hw.leads (.single step)
    have lost := hw.lost step past said held there birth
    have changed : h.hasChanged w.cache = (h.seen != s.remains.version) := by
      rw [Handle.hasChanged, Handle.view_there there birth]
      rfl
    refine ⟨s.entry, entry_there there, fun w₁ h₁ leads held₁ => ?_, fun w₁ left => ?_,
      fun w₁ w₂ w₃ h₃ leads marks leads' held₃ => ?_⟩
    · have lost₁ := Course.Leads.lost leads hw' lost
      have view := lost₁.view (hw'.leads leads) held₁
      refine ⟨by rw [Handle.current, view]; rfl, by rw [Handle.hasChanged, view]; rfl, ?_⟩
      rw [lost₁.change? (hw'.leads leads) held₁, changed]
      rcases lost₁.held h₁ held₁ with rfl | rfl
      · cases h₁.seen != s.remains.version with
        | true => exact .inr ⟨rfl, rfl⟩
        | false => exact .inl rfl
      · exact .inl (by simp)
    · have leads := Course.leads_of_leaves left
      have held₁ : w₁.holder? i = some h := by
        rw [Course.holder?_of_leaves left, Course.holder?, (step.cleared past said).2.2]
        exact held
      exact ⟨held₁, changed ▸ (Course.Leads.lost leads hw' lost).change? (hw'.leads leads) held₁⟩
    · have hw₁ := hw'.leads leads
      have hw₂ := hw₁.leads (.single marks.step)
      have caught := marks.lost hw₁ (Course.Leads.lost leads hw' lost)
      have lost₃ := Course.Leads.lost leads' hw₂ caught
      rw [lost₃.change? (hw₂.leads leads') held₃]
      rcases lost₃.held h₃ held₃ with rfl | rfl <;> simp

/-- Somebody subscribed, the first fetch was started, and everything was cleared: the handle tells of
    that start once, and then that nothing can follow. -/
theorem start_told_once :
    let w : Course Nat := .played 0 [.subscribe (.single "tasks") 0 {}]
    ∃ h e, w.holder? 0 = some h ∧ h.hasChanged w.cache = true ∧
      h.change? (w.after .clear (w.cache.clear w.now)).cache = some (.ok e) ∧
      ∀ w₂ h₂, Course.Marks 0 (w.after .clear (w.cache.clear w.now)) w₂ → w₂.holder? 0 = some h₂ →
        h₂.change? w₂.cache = some (.error (.closed (.single "tasks"))) := by
  intro w
  have hw : w.Reachable := Course.reachable_played 0 _
  have held : w.holder? 0 = some ⟨.single "tasks", 1, 1, 0⟩ := by decide
  have changed : Handle.hasChanged ⟨.single "tasks", 1, 1, 0⟩ w.cache = true := by decide
  obtain ⟨-, cleared⟩ := handles_coherent hw held
  obtain ⟨e, -, -, told, after⟩ :=
    cleared _ _ (by decide) (.clear (by decide)) rfl rfl
  refine ⟨_, e, held, changed, ?_, fun w₂ h₂ marks held₂ => after _ w₂ w₂ h₂ .refl marks .refl held₂⟩
  rw [(told _ .refl).2, changed]
  rfl

end TaskWatch.Cache
