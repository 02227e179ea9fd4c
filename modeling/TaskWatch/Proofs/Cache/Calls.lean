import TaskWatch.Proofs.Cache.Latest
import TaskWatch.Proofs.Cache.Staff

/-! How many calls for one query are under way.

    A query has one call under way at most, of the fetch in flight, and besides it the calls of entries
    that were evicted while they were fetched: eviction does not give up the fetch, and who subscribes
    again does not know of it. So it takes an eviction during a fetch for two calls to overlap. -/

namespace TaskWatch.Cache

variable {α : Type} {k : Key}

namespace Course

/-- The calls for a query that were made, and neither answered nor given up. -/
def calls (w : Course α) (k : Key) : List Job :=
  w.cache.agenda.filter (fun j => j.key == k && j.isReply)

/-- The job carries out a fetch whose entry was evicted. -/
def isStray (w : Course α) (j : Job) : Bool :=
  j.generation?.any (fun g => (w.history j.key).evictedFlights.contains g)

/-- The calls among these of entries that were evicted. -/
def strayCalls (w : Course α) (k : Key) : List Job := (w.calls k).filter w.isStray

/-- The calls among these that are not of entries that were evicted. -/
def ownCalls (w : Course α) (k : Key) : List Job := (w.calls k).filter (fun j => !w.isStray j)

variable {w : Course α}

theorem mem_calls {j : Job} : j ∈ w.calls k ↔ j ∈ w.cache.agenda ∧ j.key = k ∧ j.isReply = true := by
  simp [calls]

theorem isStray_iff {j : Job} {g : Nat} (carries : j.generation? = some g) :
    w.isStray j = true ↔ w.Stray j.key g := by
  simp [isStray, carries, Stray]

/-- A call that did not stray is that of the fetch in flight. -/
theorem Reachable.flying_of_ownCalls (hw : w.Reachable) {j : Job} (hj : j ∈ w.ownCalls k) :
    ∃ s f, w.cache.slots.find? k = some s ∧ s.inFlight = some f ∧ f.job = j.number ∧
      j.generation? = some f.generation := by
  obtain ⟨hj, own⟩ := List.mem_filter.mp hj
  obtain ⟨listed, rfl, reply⟩ := mem_calls.mp hj
  obtain ⟨g, carries⟩ : ∃ g, j.generation? = some g := by
    unfold Job.isReply at reply
    unfold Job.generation?
    split at reply
    · rename_i g producer call duty
      exact ⟨g, by rw [duty]⟩
    · exact nomatch reply
  have has : w.cache.agenda.Has j.key j.number (.fetch g) :=
    ⟨j, listed, rfl, rfl, Job.generation?_eq.mp carries⟩
  rcases hw.staffed.fetches _ _ _ has with strayed | ⟨s, there, h⟩
  · simp [(isStray_iff carries).mpr strayed] at own
  · obtain ⟨f, flying, number, rfl⟩ := h.flying
    exact ⟨s, f, there, flying, number, carries⟩

theorem Reachable.ownCalls_le (hw : w.Reachable) (k : Key) : (w.ownCalls k).length ≤ 1 := by
  have once : (w.ownCalls k).Nodup :=
    ((hw.staffed.numbered.distinct.of_map).filter _).filter _
  have same : ∀ i ∈ w.ownCalls k, ∀ j ∈ w.ownCalls k, i = j := by
    intro i hi j hj
    obtain ⟨s, f, there, flying, number, -⟩ := hw.flying_of_ownCalls hi
    obtain ⟨s', f', there', flying', number', -⟩ := hw.flying_of_ownCalls hj
    obtain rfl := Option.some.inj (there.symm.trans there')
    obtain rfl := Option.some.inj (flying.symm.trans flying')
    have listed {j : Job} (hj : j ∈ w.ownCalls k) : j ∈ w.cache.agenda :=
      (mem_calls.mp (List.mem_of_mem_filter hj)).1
    exact hw.staffed.numbered.job (listed hi) (listed hj) (number.symm.trans number')
  match hcalls : w.ownCalls k with
  | [] => exact Nat.zero_le _
  | [_] => exact Nat.le_refl _
  | i :: j :: rest =>
    rw [hcalls] at once same
    have := same i (List.mem_cons_self ..) j (List.mem_cons_of_mem _ (List.mem_cons_self ..))
    exact ((List.nodup_cons.mp once).1 (this ▸ List.mem_cons_self ..)).elim

end Course

/-- In every reachable course the calls for a query that are under way are the one of the fetch in
    flight, if it has made its call, and those of entries that were evicted while they were fetched.
    Without one of these there is one call at most. -/
theorem one_call_besides_strays {w : Course α} (hw : w.Reachable) (k : Key) :
    (w.calls k).length = (w.ownCalls k).length + (w.strayCalls k).length ∧
      (w.ownCalls k).length ≤ 1 ∧
      (∀ j ∈ w.ownCalls k, ∃ g, j.generation? = some g ∧ w.cache.Flying k g) ∧
      (w.strayCalls k = [] → (w.calls k).length ≤ 1) := by
  have parts : (w.calls k).length = (w.ownCalls k).length + (w.strayCalls k).length := by
    have := (List.filter_append_perm w.isStray (w.calls k)).length_eq
    rw [List.length_append] at this
    exact (this.symm.trans (Nat.add_comm ..))
  refine ⟨parts, hw.ownCalls_le k, fun j hj => ?_, fun stayed => ?_⟩
  · obtain ⟨s, f, there, flying, -, carries⟩ := hw.flying_of_ownCalls hj
    exact ⟨f.generation, carries, s, f, there, flying, rfl⟩
  · rw [parts, stayed]
    exact hw.ownCalls_le k

/-- An eviction during a fetch, and somebody who subscribes again: two calls overlap. -/
theorem two_calls_overlap : ¬ ∀ w : Course Nat, w.Reachable → ∀ k, (w.calls k).length ≤ 1 := by
  intro h
  let moves : List (Move Nat) := [.subscribe (.single "tasks") 0 {}, .run 1 1000 (.ok 1),
    .unsubscribe 0, .subscribe (.single "tasks") 0 {}, .run 2 1000 (.ok 1)]
  exact absurd (h _ (Course.reachable_played 0 moves) (.single "tasks")) (by decide)

/-- A fetch that was given up for another leaves one call under way. -/
theorem one_call_after_refetch :
    let w : Course Nat := .played 0 [.subscribe (.single "tasks") 0 {}, .run 1 1000 (.ok 1),
      .refetch (.single "tasks"), .run 2 1000 (.ok 1)]
    (w.history (.single "tasks")).started.length = 2 ∧ (w.calls (.single "tasks")).length ≤ 1 := by
  refine ⟨by decide, ?_⟩
  exact (one_call_besides_strays (Course.reachable_played _ _) _).2.2.2 (by decide)

end TaskWatch.Cache
