import TaskWatch.Proofs.Cache.Staff
import TaskWatch.Proofs.Cache.Subscribe

/-! How long an invalidation counts.

    Data that was invalidated is not served as fresh, whatever fails or is superseded since, until a
    fetch succeeds. Which fetch does not matter: if one was in flight when the data was invalidated, its
    success takes the mark off too, although it was started before. That is the one way in which an
    invalidation can be lost. -/

namespace TaskWatch.Cache

variable {α : Type} {k : Key} {w w' : Course α}

/-- A subscriber was not served as from fresh data: a fetch in flight was joined, or one was
    started. -/
def Attended (k : Key) (c c' : Cache α) : Prop :=
  c'.stats.hits = c.stats.hits ∧
    ((∃ g, c.Flying k g ∧ c'.Flying k g ∧ c'.stats.fetches = c.stats.fetches) ∨
      ∃ g, c.sequence < g ∧ c'.Flying k g ∧ c'.stats.fetches = c.stats.fetches + 1)

/-- Only an entry that there is can be invalidated. -/
theorem there_of_invalidate {now : Time.Instant} {c : Cache α}
    (marked : (c.invalidate now k).2 = true) : ∃ s, c.slots.find? k = some s := by
  unfold Cache.invalidate at marked
  cases hs : c.slots.find? k with
  | none => simp [hs] at marked
  | some s => exact ⟨s, rfl⟩

/-- Whoever subscribes to an entry that is invalidated is attended to. -/
theorem attended_of_invalidated {now : Time.Instant} {producer : Nat} {o : Options} {h : Handle}
    {c c' : Cache α} {s : Slot α} (there : c.slots.find? k = some s) (invalid : s.invalidated = true)
    (valid : k.isValid = true) (done : c.subscribe now k producer o = .ok (c', h)) :
    c.Attended k c' := by
  rw [subscribe_there valid there, Except.ok.injEq, Prod.mk.injEq] at done
  obtain ⟨rfl, -⟩ := done
  unfold Attended
  simp only [stats_reschedule, flying_reschedule]
  cases hf : s.inFlight with
  | some f =>
    obtain ⟨stats, flying⟩ := served_joined now k producer o c hf
    rw [stats]
    exact ⟨rfl, .inl ⟨f.generation, ⟨s, f, there, hf, rfl⟩, flying, rfl⟩⟩
  | none =>
    have stale : s.isFresh now o = false := by simp [Slot.isFresh, invalid]
    obtain ⟨stats, flying⟩ := served_stale k producer c hf stale
    rw [stats]
    refine ⟨?_, .inr ⟨c.sequence + 2, Nat.lt_add_of_pos_right (by decide), flying, ?_⟩⟩
    · split <;> rfl
    · split <;> rfl

/-- Who is served from fresh data is not attended to. -/
theorem not_attended_of_fresh {now : Time.Instant} {producer : Nat} {o : Options} {c : Cache α}
    {s : Slot α} (fresh : s.isFresh now o = true) :
    ¬ c.Attended k ((c.served now k s producer o).reschedule now k) := by
  rintro ⟨hits, -⟩
  rw [stats_reschedule, (served_fresh k producer c fresh).1] at hits
  exact Nat.succ_ne_self c.stats.hits hits

namespace Course

/-- To invalidate an entry is the first thing that becomes of it from then on. -/
theorem Reachable.invalidated (hw : w.Reachable) (k : Key)
    (marked : (w.cache.invalidate w.now k).2 = true) :
    (w.now, Sign.invalidated) :: w.history k <:+
      (w.after (.invalidate k) (w.cache.invalidate w.now k).1).history k := by
  let deed : Deed α := .invalidate k
  suffices (w.now, Sign.invalidated) :: w.history k <:+
      (Cache.cell w.now deed.answer? k (w.history k) (w.cache.invalidate w.now k).1).history by
    rwa [cell_behind (show deed.sign? = none from rfl) _ w.handles] at this
  obtain ⟨s, there⟩ := there_of_invalidate marked
  have start : (Cache.cell w.now deed.answer? k (w.history k)
      ((w.cache.setSlot k { s with invalidated := true }).report
        (.invalidated k (!s.subscribers.isEmpty)))).history =
      (w.now, .invalidated) :: w.history k := by
    rw [Cache.cell, signs_mark, show w.cache.journal = [] from hw.booked]
    rfl
  unfold Cache.invalidate
  rw [there, ← start]
  dsimp only
  split
  · exact Cell.Leads.history startFetch_cell
  · exact List.suffix_rfl

/-- Unless a fetch has succeeded since, an entry that was invalidated is invalidated still. -/
theorem Reachable.still_invalidated (hw : w.Reachable) {t : Time.Instant} {since before : History α}
    (history : w.history k = since ++ (t, .invalidated) :: before)
    (same : ∀ x ∈ since, x.2.drops = false) (unsuccessful : since.succeeded = []) :
    ∃ s, w.cache.slots.find? k = some s ∧ s.invalidated = true := by
  have faithful : (w.cell k).Faithful := hw.faithful
  have flag := faithful.invalidated
  rw [show (w.cell k).history = _ from history, History.isInvalidated_append same unsuccessful] at flag
  obtain ⟨s, there, invalid⟩ := (Option.any_eq_true _ _).mp flag
  exact ⟨s, there, invalid⟩

/-- An entry whose last fetch has just succeeded is fresh to whoever does not mind its age. -/
theorem Reachable.fresh_after_success (hw : w.Reachable) {t : Time.Instant} {g : Nat} {a : α}
    {before : History α} (history : w.history k = (t, .succeeded g a) :: before) {o : Options}
    (young : w.now.elapsed ≤ t.elapsed + o.stale) :
    ∃ s, w.cache.slots.find? k = some s ∧ s.isFresh w.now o = true := by
  obtain ⟨flight, invalidated, data, fetchedAt, -, -, -⟩ := hw.faithful (k := k)
  rw [show (w.cell k).history = _ from history] at flight invalidated data fetchedAt
  obtain ⟨s, there, -⟩ := Option.bind_eq_some_iff.mp data
  rw [there] at flight invalidated fetchedAt
  have idle : s.inFlight = none := Option.map_eq_none_iff.mp flight
  have valid : s.invalidated = false := invalidated
  have dated : s.entry.fetchedAt = some t.elapsed := fetchedAt
  refine ⟨s, there, ?_⟩
  have age : ¬ o.stale < w.now.elapsed - t.elapsed := by omega
  simp [Slot.isFresh, Entry.isStale, Entry.age, idle, valid, dated, age]

end Course

/-- Until a fetch succeeds that was started since, an invalidation counts, unless one was in flight
    when the entry was invalidated and succeeds: whoever subscribes to the entry joins a fetch or has
    one started. But as soon as a fetch succeeds, that one too, the data counts as fresh to whoever
    does not mind its age. -/
theorem invalidation_counts_until_success (hw : w.Reachable) (k : Key)
    (marked : (w.cache.invalidate w.now k).2 = true)
    (leads : (w.after (.invalidate k) (w.cache.invalidate w.now k).1).Leads w') :
    (w.now, Sign.invalidated) :: w.history k <:+ w'.history k ∧
    ∀ since, w'.history k = since ++ (w.now, .invalidated) :: w.history k →
      ((∀ x ∈ since, x.2.drops = false) →
        (∀ g ∈ since.succeeded, g ∈ (w.history k).started ∧ ¬ w.cache.Flying k g) →
        ∀ producer o c h, w'.cache.subscribe w'.now k producer o = .ok (c, h) →
          w'.cache.Attended k c) ∧
      ∀ t g a rest, since = (t, .succeeded g a) :: rest →
        ∀ producer o, w'.now.elapsed ≤ t.elapsed + o.stale →
          ∃ c h, w'.cache.subscribe w'.now k producer o = .ok (c, h) ∧
            c.stats.hits = w'.cache.stats.hits + 1 := by
  obtain ⟨s, there⟩ := there_of_invalidate marked
  have hw₁ : (w.after (.invalidate k) (w.cache.invalidate w.now k).1).Reachable :=
    hw.leads (.single (.invalidate k (hw.alive there)))
  have hw' := hw₁.leads leads
  have later : Cell.Leads k _ (w'.cell k) := Course.Leads.cell leads hw₁.booked
  refine ⟨(hw.invalidated k marked).trans later.history, fun since history => ⟨?_, ?_⟩⟩
  · intro same early producer o c h done
    have orderly : (w'.history k).Orderly := hw'.faithful.orderly
    have unsuccessful : since.succeeded = [] := by
      refine List.eq_nil_iff_forall_not_mem.mpr fun g hg => (early g hg).2 ?_
      rw [history] at orderly
      have before : History.flight? ((w.now, .invalidated) :: w.history k) = some g :=
        History.flight_of_succeeded orderly hg (early g hg).1
      exact hw.flying_iff.mpr before
    obtain ⟨s, there, invalid⟩ := hw'.still_invalidated history same unsuccessful
    have valid := hw'.registered.valid k (hw'.registered.mem_keys.mpr ⟨s, there⟩)
    exact attended_of_invalidated there invalid valid done
  · rintro t g a rest rfl producer o young
    obtain ⟨s, there, fresh⟩ := hw'.fresh_after_success history young
    have valid := hw'.registered.valid k (hw'.registered.mem_keys.mpr ⟨s, there⟩)
    refine ⟨_, _, subscribe_there valid there, ?_⟩
    rw [stats_reschedule, (served_fresh k producer w'.cache fresh).1]

/-- A fetch that was in flight when its entry was invalidated succeeds, and the invalidation is lost. -/
theorem invalidation_lost : ¬ ∀ (w w' : Course Nat) (k : Key) (since : History Nat), w.Reachable →
    (w.cache.invalidate w.now k).2 = true →
    (w.after (.invalidate k) (w.cache.invalidate w.now k).1).Leads w' →
    w'.history k = since ++ (w.now, .invalidated) :: w.history k →
    (∀ x ∈ since, x.2.drops = false) → (∀ g ∈ since.succeeded, g ∈ (w.history k).started) →
    ∀ producer o c h, w'.cache.subscribe w'.now k producer o = .ok (c, h) →
      w'.cache.Attended k c := by
  intro kept
  let k : Key := .single "tasks"
  let w : Course Nat := .played 60000 [.subscribe k 0 {}, .run 1 100 (.ok 7), .unsubscribe 0]
  let w₁ := w.after (.invalidate k) (w.cache.invalidate w.now k).1
  let w' := w₁.plays [.pass 100, .run 1 0 (.ok 7)]
  have hw : w.Reachable := Course.reachable_played 60000 _
  have leads : w₁.Leads w' := Course.leads_plays _ w₁
  have hw' : w'.Reachable := (hw.leads (.single (.invalidate k (by decide)))).leads leads
  have history : w'.history k = (w'.now, .succeeded 2 7) :: (w.now, .invalidated) :: w.history k := by
    decide
  obtain ⟨s, there, fresh⟩ := hw'.fresh_after_success (o := { stale := 60000 }) history
    (Nat.le_add_right _ _)
  have attended := kept w w' k [(w'.now, .succeeded 2 7)] hw (by decide) leads history (by decide)
    (by decide) 0 { stale := 60000 } _ _ (subscribe_there (by decide) there)
  exact not_attended_of_fresh fresh attended

/-- Nothing was in flight when the entry was invalidated, and whoever comes next has a fetch
    started. -/
theorem invalidation_counts_while_idle :
    let w : Course Nat := .played 300 [.subscribe (.single "tasks") 0 {}, .run 1 0 (.ok 7),
      .run 1 0 (.ok 7), .unsubscribe 0]
    let w' := w.after (.invalidate (.single "tasks")) (w.cache.invalidate w.now (.single "tasks")).1
    ∀ producer o c h, w'.cache.subscribe w'.now (.single "tasks") producer o = .ok (c, h) →
      w'.cache.Attended (.single "tasks") c := by
  intro w w'
  exact ((invalidation_counts_until_success (Course.reachable_played 300 _) (.single "tasks")
    (by decide) .refl).2 [] (by decide)).1 nofun nofun

end TaskWatch.Cache
