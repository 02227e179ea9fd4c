import TaskWatch.Proofs.Bench.Follows
import TaskWatch.Proofs.Bench.Ran
import TaskWatch.Proofs.Cache.Roster

/-! Misuse of a cache leaves no trace.

    Only who subscribes names a query that there may be no entry of yet, so names are checked there and
    nowhere else. Since an entry is made for a valid name only, a name that is none is never found, and
    whatever else is asked of it is refused like any query without an entry. Whoever is refused finds
    everything as it was: `Run.Unmarked` says that no more than the count of turns tells of it. -/

namespace TaskWatch

open Cache

variable {α : Type} {now : Time.Instant} {k : Key} {c : Cache α} {producer : Nat} {o : Options}
  {m : Misuse}

namespace Cache

/-- A name is invalid if it has no segment, or an empty one. -/
theorem Key.isValid_eq_false_iff : k.isValid = false ↔ k.segments = [] ∨ "" ∈ k.segments := by
  rw [Key.isValid, Bool.and_eq_false_iff, Bool.not_eq_false', List.isEmpty_iff, List.all_eq_false]
  simp

/-- Only a name that is invalid keeps anybody from subscribing. -/
theorem subscribe_eq_error_iff :
    c.subscribe now k producer o = .error m ↔ k.isValid = false ∧ m = .emptyKey := by
  unfold subscribe
  cases valid : k.isValid with
  | true => simp
  | false => simp [eq_comm]

theorem refetch_eq_error_iff :
    c.refetch now k = .error m ↔ c.slots.find? k = none ∧ m = .unknownKey k := by
  unfold refetch
  cases c.slots.find? k with
  | none => simp [eq_comm]
  | some s => simp

/-- The answer says whether there is an entry, and if there is none that is all. -/
theorem invalidate_vacant (vacant : c.slots.find? k = none) : c.invalidate now k = (c, false) := by
  rw [invalidate, vacant]

theorem invalidate_answer (now : Time.Instant) (k : Key) (c : Cache α) :
    (c.invalidate now k).2 = (c.slots.find? k).isSome := by
  unfold invalidate
  cases c.slots.find? k <;> rfl

theorem entry?_eq_none_iff : c.entry? k = none ↔ c.slots.find? k = none :=
  Option.map_eq_none_iff

/-- Nothing is filed under a name that is none. -/
theorem Course.Reachable.vacant {w : Course α} (hw : w.Reachable) (invalid : k.isValid = false) :
    w.cache.slots.find? k = none := by
  refine Option.eq_none_iff_forall_ne_some.mpr fun s there => ?_
  have valid := hw.registered.valid k (hw.registered.mem_keys.mpr ⟨s, there⟩)
  exact Bool.false_ne_true (invalid.symm.trans valid)

end Cache

namespace Bench

namespace Run

variable {r r' : Run α}

/-- The second run is the first, but for how many turns were counted: its cache with all entries,
    timers, pending evictions and counts, its producers with the calls they got, the handles that are
    held, the clock and the log are the same. -/
def Unmarked (r r' : Run α) : Prop := ∃ turn, r' = { r with bench := { r.bench with turn } }

/-- The step is answered so exactly if it is misuse, and then leaves no mark. -/
def Refuses [BEq α] (r : Run α) (s : Step α) (answer : Outcome α) (misuse : Prop) : Prop :=
  ((r.act s).2 = answer ↔ misuse) ∧ (misuse → r.Unmarked (r.act s).1)

theorem Unmarked.refl (r : Run α) : r.Unmarked r := ⟨r.bench.turn, rfl⟩

theorem onCache_alive (alive : r.bench.cache.abandoned = false)
    (f : Cache α → Run α × Outcome α) : r.onCache f = f r.bench.cache := by
  simp [onCache, alive]

/-- A cache taken over as it is leaves no mark, if nothing waits to be put on the log. -/
theorem unmarked_withCache (booked : r.bench.cache.journal = []) :
    r.Unmarked (r.withCache r.bench.cache) := by
  refine ⟨r.bench.turn + 1, ?_⟩
  simp only [withCache, Bench.withCache, booked, List.map_nil, List.nil_append]
  rw [← booked]

theorem refuses_subscribe [BEq α] (alive : r.bench.cache.abandoned = false) (k : Key)
    (producer : Nat) (o : Options) :
    r.Refuses (.subscribe k producer o) (.misuse .emptyKey) (k.segments = [] ∨ "" ∈ k.segments) := by
  rw [← Key.isValid_eq_false_iff, Refuses, act, onCache_alive alive]
  split
  · rename_i c h done
    have valid : k.isValid ≠ false := fun invalid =>
      nomatch done.symm.trans (subscribe_eq_error_iff.mpr ⟨invalid, rfl⟩)
    simp [valid]
  · rename_i m refused
    obtain ⟨invalid, rfl⟩ := subscribe_eq_error_iff.mp refused
    exact ⟨iff_of_true rfl invalid, fun _ => .refl r⟩

theorem refuses_refetch [BEq α] (alive : r.bench.cache.abandoned = false) (k : Key) :
    r.Refuses (.refetch k) (.misuse (.unknownKey k)) (r.bench.cache.entry? k = none) := by
  rw [entry?_eq_none_iff, Refuses, act, onCache_alive alive]
  split
  · rename_i c done
    have known : r.bench.cache.slots.find? k ≠ none := fun vacant =>
      nomatch done.symm.trans (refetch_eq_error_iff.mpr ⟨vacant, rfl⟩)
    simp [known]
  · rename_i m refused
    obtain ⟨vacant, rfl⟩ := refetch_eq_error_iff.mp refused
    exact ⟨iff_of_true rfl vacant, fun _ => .refl r⟩

theorem refuses_invalidate [BEq α] (alive : r.bench.cache.abandoned = false)
    (booked : r.bench.cache.journal = []) (k : Key) :
    r.Refuses (.invalidate k) (.flag false) (r.bench.cache.entry? k = none) := by
  rw [entry?_eq_none_iff, Refuses, act, onCache_alive alive]
  dsimp only
  refine ⟨?_, fun vacant => ?_⟩
  · rw [Outcome.flag.injEq, invalidate_answer, Option.isSome_eq_false_iff, Option.isNone_iff_eq_none]
  · rw [invalidate_vacant vacant]
    exact unmarked_withCache booked

end Run

/-- Wherever a run comes to with its cache, an invalid name is refused by subscribing, and a name
    without an entry by refetching and invalidating, and nothing else is refused so. What is refused
    leaves no mark, so no producer is called. No entry has an invalid name, and therefore refetching
    and invalidating one always fails. -/
theorem misuse_leaves_no_trace [BEq α] {w : Course α} (hw : w.Reachable) {r : Run α}
    (there : r.bench.cache = w.cache) (alive : r.bench.cache.abandoned = false) (k : Key) :
    (∀ producer o, r.Refuses (.subscribe k producer o) (.misuse .emptyKey)
      (k.segments = [] ∨ "" ∈ k.segments)) ∧
    r.Refuses (.refetch k) (.misuse (.unknownKey k)) (r.bench.cache.entry? k = none) ∧
    r.Refuses (.invalidate k) (.flag false) (r.bench.cache.entry? k = none) ∧
    (∀ e, r.bench.cache.entry? k = some e → k.segments ≠ [] ∧ "" ∉ k.segments) ∧
    (k.segments = [] ∨ "" ∈ k.segments →
      (r.act (.refetch k)).2 = .misuse (.unknownKey k) ∧ (r.act (.invalidate k)).2 = .flag false) := by
  have booked : r.bench.cache.journal = [] := there ▸ hw.booked
  have vacant (invalid : k.segments = [] ∨ "" ∈ k.segments) : r.bench.cache.entry? k = none := by
    rw [entry?_eq_none_iff, there]
    exact hw.vacant (Key.isValid_eq_false_iff.mpr invalid)
  have refetch := Run.refuses_refetch alive k
  have invalidate := Run.refuses_invalidate alive booked k
  refine ⟨Run.refuses_subscribe alive k, refetch, invalidate, fun e found => ?_, fun invalid => ?_⟩
  · exact not_or.mp fun invalid => nomatch found.symm.trans (vacant invalid)
  · exact ⟨refetch.1.mpr (vacant invalid), invalidate.1.mpr (vacant invalid)⟩

/-- One query is being fetched on time and another is about to be dropped, when somebody asks for a name
    whose second segment is empty. Three jobs are still on the agenda after each request. -/
theorem empty_segment_refused :
    let tasks : Key := .single "tasks"
    let one : Key := ⟨["task", "1"]⟩
    let k : Key := ⟨["tasks", ""]⟩
    let producers : List (Producer Nat) := [{ supply := .script [⟨.ok 1, 30⟩] }]
    let done : List (Step Nat × Bool) := [(.subscribe tasks 0 { interval := 100 }, false),
      (.subscribe one 0 {}, false), (.unsubscribe 1, false), (.jump 110, false)]
    let r := (Run.fresh 300 producers 0 Time.benchStart).steps done
    r.Refuses (.subscribe k 0 { interval := 50 }) (.misuse .emptyKey)
      (k.segments = [] ∨ "" ∈ k.segments) ∧
    (r.act (.subscribe k 0 { interval := 50 })).2 = .misuse .emptyKey ∧
    (r.act (.refetch k)).2 = .misuse (.unknownKey k) ∧ (r.act (.invalidate k)).2 = .flag false ∧
    [Step.subscribe k 0 { interval := 50 }, .refetch k, .invalidate k].map
      (fun s => (r.act s).1.bench.cache.agenda.length) = [3, 3, 3] := by
  intro tasks one k producers done r
  obtain ⟨w, hw, tracks⟩ := Run.punctual_steps (r := Run.fresh 300 producers 0 Time.benchStart) rfl
    rfl done
  have invalid : k.segments = [] ∨ "" ∈ k.segments := by decide
  obtain ⟨subscribe, refetch, invalidate, -, always⟩ :=
    misuse_leaves_no_trace hw.reachable (r := r) tracks.cache.symm (by decide) k
  have subscribe := subscribe 0 { interval := 50 }
  exact ⟨subscribe, subscribe.1.mpr invalid, (always invalid).1, (always invalid).2, by decide⟩

end Bench

end TaskWatch
