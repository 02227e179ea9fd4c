import TaskWatch.Proofs.Bench.SharedSteps

/-! Queries keep to themselves.

    All queries of a cache share its numbers and its agenda. Still, whatever is done with other queries, a
    query fares as if it had not been done: at every moment its entry, its subscribers, what they see and
    the calls of its producers are the same as in the run without. For that, no producer may be called
    for another query as well. Queries that are displayed alike are different queries still.

    What is shown holds after each step of a run. To sleep can be cut in two at any moment, so it holds
    at every moment. -/

namespace TaskWatch.Bench

open Cache Run

variable {α : Type}

/-- Somebody subscribes to the query with this producer in the course of the steps. -/
def Serves (done : List (Step α × Bool)) (k : Key) (producer : Nat) : Prop :=
  ∃ o, Step.subscribe k producer o ∈ done.map Prod.fst

/-- A query, and the producers that serve it, are one party, and all the rest is the other. -/
def Serves.parties (done : List (Step α × Bool)) (k : Key) : Parties where
  first := ⟨fun l => l = k, Serves done k⟩
  second := ⟨fun l => l ≠ k, fun p => ¬ Serves done k p⟩
  keys _ same other := other same
  producers _ serves other := other serves

theorem Serves.fair {done : List (Step α × Bool)} {k : Key}
    (apart : ∀ l p, Serves done k p → Serves done l p → l = k) {s : Step α × Bool} (listed : s ∈ done) :
    s.1.Fair (Serves.parties done k) := by
  obtain ⟨s, hold⟩ := s
  cases s with
  | subscribe l p o =>
    have serves : Serves done l p := ⟨o, List.mem_map_of_mem listed⟩
    exact ⟨fun same => same ▸ serves, fun other his => other (apart l p his serves)⟩
  | _ => trivial

/-- Of a run, take out whatever is done with other queries than one. If the producers of that query serve
    no other, then after each of the steps both runs look the same to whoever cares for the query, and
    the next step brings the same. -/
theorem queries_isolated [BEq α] (grace : Nat) (producers : List (Producer α)) (now : Nat)
    (origin : Time.Stamp) (k : Key) {done before after : List (Step α × Bool)}
    (apart : ∀ l p, Serves done k p → Serves done l p → l = k) :
    let r := Run.fresh grace producers now origin
    let own := fun l => decide (l = k)
    let mine := r.marked own [] before
    let all := r.steps before
    let alone := r.steps (r.thinned own [] before)
    Unhurried own r [] done → done = before ++ after →
    r.thinned own [] before <+: r.thinned own [] done ∧
    SameTo (fun l => l = k) (Serves done k) mine all alone ∧
    ∀ s hold rest, after = (s, hold) :: rest → s.isOthers own mine = false →
      s.Tells (Serves done k) →
      (alone.act (s.renumbered (ownNumber mine))).2 = (all.act s).2.renumbered (ownNumber mine) := by
  rintro r own mine all alone unhurried rfl
  have first (l : Key) (h : own l = true) : l = k := of_decide_eq_true h
  have second (l : Key) (h : own l = false) : l ≠ k := of_decide_eq_false h
  obtain ⟨r₂, T₁, T₂, -, -, shared⟩ := Shared.thinned first second before
    (shared_fresh (Serves.parties (before ++ after) k) grace producers now origin)
    (fun s listed => Serves.fair apart (List.mem_append_left _ listed)) unhurried.before
  refine ⟨?_, shared.sameTo, ?_⟩
  · rw [thinned_append]
    exact List.prefix_append _ _
  · rintro s hold rest rfl others tells
    have listed : (s, hold) ∈ before ++ (s, hold) :: rest :=
      List.mem_append_right _ (List.mem_cons_self ..)
    exact shared.outcome first (Serves.fair apart listed) others tells

/-- The query of the first subscriber is displayed like that of the second, which is fetched anew and left
    meanwhile. Without the second the first finds the same data, its producer was called as often, and
    its handle brings the same entry. -/
theorem displayed_alike_isolated :
    let a : Key := ⟨["a:b"]⟩
    let b : Key := ⟨["a", "b"]⟩
    let producers : List (Producer Nat) := [{ supply := .script [⟨.ok 1, 10⟩, ⟨.ok 2, 10⟩] },
      { supply := .script [⟨.err "down", 5⟩] }]
    let before : List (Step Nat × Bool) := [(.subscribe b 1 { interval := 20 }, false),
      (.subscribe a 0 { interval := 50 }, false), (.jump 10, false), (.refetch b, true),
      (.invalidate a, true), (.unsubscribe 0, false), (.jump 40, false)]
    let r := Run.fresh 300000 producers 0 Time.benchStart
    let own := fun l => decide (l = a)
    let all := r.steps before
    let alone := r.steps (r.thinned own [] before)
    a.text = b.text ∧ a ≠ b ∧ (r.thinned own [] before).length = 6 ∧
    (all.bench.cache.entry? a).map Entry.data = some (some 2) ∧
    (alone.bench.cache.entry? a).map Entry.data = some (some 2) ∧
    (all.bench.producers[0]?).map Producer.probe = some ⟨3, 1, 1⟩ ∧
    (alone.bench.producers[0]?).map Producer.probe = some ⟨3, 1, 1⟩ ∧
    (alone.act (.latest 0)).2 = (all.act (.latest 1)).2.renumbered (ownNumber [false, true]) := by
  intro a b producers before r own all alone
  let done := before ++ [(Step.latest 1, false)]
  have apart (l : Key) (p : Nat) : Serves done a p → Serves done l p → l = a := by
    rintro ⟨o, mine⟩ ⟨o', other⟩
    simp [done, before] at mine other
    grind
  have waits : ∀ s ∈ done, s.1.waits = false := by decide
  have marked : r.marked own [] before = [false, true] := by decide
  have isolated := queries_isolated 300000 producers 0 Time.benchStart a apart
    (unhurried_of_waits waits) (rfl : done = before ++ [(.latest 1, false)])
  have same : SameTo (fun l => l = a) (Serves done a) (r.marked own [] before) all alone :=
    isolated.2.1
  have answer : (alone.act (.latest (ownNumber (r.marked own [] before) 1))).2 =
      (all.act (.latest 1)).2.renumbered (ownNumber (r.marked own [] before)) :=
    isolated.2.2 (.latest 1) false [] rfl (by decide) trivial
  rw [marked] at answer
  have data : (all.bench.cache.entry? a).map Entry.data = some (some 2) := by decide
  have calls : (all.bench.producers[0]?).map Producer.probe = some ⟨3, 1, 1⟩ := by decide
  have serves : Serves done a 0 := ⟨{ interval := 50 }, by simp [done, before]⟩
  have data' := (congrArg (Option.map Entry.data) (same.entry a rfl)).symm.trans data
  have calls' := (congrArg (Option.map Producer.probe) (same.producers 0 serves)).symm.trans calls
  exact ⟨by decide, by decide, by decide, data, data', calls, calls', answer⟩

end TaskWatch.Bench
