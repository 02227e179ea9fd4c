import Mathlib.Logic.Relation
import TaskWatch.Proofs.Cache.Basic

/-! What the jobs of a cache do to the slot of a query.

    Jobs do only three things to a slot: a fetch begins, a fetch is answered, or an entry is evicted that
    nobody is interested in. These are the chores of a cache. A source that never fails has one answer
    at each moment, and `chores_runJob` says that whatever job runs then, for whatever query, every slot
    is as chores with that answer leave it. -/

namespace TaskWatch.Cache

open Relation

variable {α σ : Type} {a : α} {now : Time.Instant} {k l : Key} {c c' : Cache α} {s s' : Slot α}

/-- A chore, where fetches are answered with `a`. -/
inductive Chore (a : α) : Option (Slot α) → Option (Slot α) → Prop
  | begin {s : Slot α} (flight : Flight) :
      Chore a (some s) (some (({ s with inFlight := some flight }).publish Entry.begin))
  | answer {s : Slot α} (now : Time.Instant) :
      Chore a (some s) (some (({ s with inFlight := none, invalidated := false }).publish
        (Entry.succeed now a)))
  | evict {s : Slot α} (lonely : s.subscribers = []) : Chore a (some s) none

/-- Chores lead from the slot that a query has in one cache to the one that it has in the other. -/
def Chores (a : α) (k : Key) (c c' : Cache α) : Prop :=
  ReflTransGen (Chore a) (c.slots.find? k) (c'.slots.find? k)

namespace Chores

theorem refl (a : α) (k : Key) (c : Cache α) : Chores a k c c := ReflTransGen.refl

theorem trans {c'' : Cache α} (h : Chores a k c c') (h' : Chores a k c' c'') : Chores a k c c'' :=
  ReflTransGen.trans h h'

theorem of_slots (same : c'.slots = c.slots) : Chores a k c c' := by
  rw [Chores, same]

/-- What chores keep of a slot is kept of that of the query. -/
theorem keeps {P : Option (Slot α) → Prop} (kept : ∀ x y, Chore a x y → P x → P y)
    (h : Chores a k c c') (before : P (c.slots.find? k)) : P (c'.slots.find? k) := by
  rw [Chores] at h
  generalize c'.slots.find? k = y at h
  induction h with
  | refl => exact before
  | tail _ chore ih => exact kept _ _ chore ih

end Chores

/-- A chore at one query is none at the others. -/
theorem chores_setSlot (there : c.slots.find? k = some s) (chore : Chore a (some s) (some s')) :
    Chores a l c (c.setSlot k s') := by
  rw [Chores, find?_setSlot]
  split
  · subst l
    rw [there]
    exact .single chore
  · exact .refl

theorem chores_launch (there : c.slots.find? k = some s) :
    Chores a l c (c.launch now k s) :=
  chores_setSlot (c := (c.numbered.count _).spawn now k _ _) there (.begin _)

theorem chores_startFetch {supersede : Bool} : Chores a l c (c.startFetch now k supersede).1 := by
  cases hs : c.slots.find? k with
  | none => rw [startFetch_vacant hs]; exact .refl a l c
  | some s =>
    cases hf : s.inFlight with
    | none => rw [startFetch_idle hs hf]; exact chores_launch hs
    | some f =>
      cases supersede with
      | false => rw [startFetch_joined hs hf]; exact .refl a l c
      | true =>
        rw [startFetch_superseding hs hf]
        have given_up : ((c.abort now f.job).report (.superseding k f.generation)).slots = c.slots := by
          rw [abort_eq]
          rfl
        exact .trans (.of_slots given_up) (chores_launch (given_up ▸ hs))

theorem chores_refetch (done : c.refetch now k = .ok c') : Chores a l c c' := by
  unfold refetch at done
  split at done
  · obtain rfl := Except.ok.inj done
    exact chores_startFetch
  · simp at done

theorem chores_scheduledFetch : Chores a l c (c.scheduledFetch now k) := by
  unfold scheduledFetch
  dsimp only
  split
  · exact chores_startFetch
  · exact chores_startFetch.trans (.of_slots rfl)

theorem chores_repeated : ∀ (n : Nat) (c : Cache α),
    Chores a l c (repeated (scheduledFetch now k) n c)
  | 0, c => .refl a l c
  | n + 1, _ => chores_scheduledFetch.trans (chores_repeated n _)

/-- A timer is put off, and fetches begin. -/
theorem chores_tick {j : Job} {period : Nat} : Chores a l c (c.tick now j period) := by
  refine .trans ?_ (chores_repeated _ _)
  exact .of_slots rfl

/-- The answer is entered, or the fetch was given up and nothing becomes of it. -/
theorem chores_settle {g : Nat} : Chores a l c (c.settle now k g (.ok a)) := by
  unfold settle
  split
  · exact .refl a l c
  · cases hs : c.slots.find? k with
    | none => rw [commit_vacant hs]; exact .of_slots rfl
    | some s =>
      by_cases current : s.inFlight.map Flight.generation = some g
      · obtain ⟨f, flying, rfl⟩ := Option.map_eq_some_iff.mp current
        rw [commit_current hs flying]
        exact (chores_setSlot hs (.answer now)).trans (.of_slots rfl)
      · rw [commit_overtaken hs current]
        exact .of_slots rfl

theorem chores_evict (there : c.slots.find? k = some s) (lonely : s.subscribers = []) :
    Chores a l c (c.evict k) := by
  have gone : (c.evict k).slots.find? l = if l = k then none else c.slots.find? l :=
    Table.find?_erase c.slots k l
  rw [Chores, gone]
  split
  · subst l
    rw [there]
    exact .single (.evict lonely)
  · exact .refl

theorem chores_collect {token : Nat} : Chores a l c (c.collect k token) := by
  unfold collect
  cases hs : c.slots.find? k with
  | none => exact .refl a l c
  | some s =>
    dsimp only
    split
    · rename_i expired
      exact chores_evict hs (List.isEmpty_iff.mp (Bool.and_eq_true_iff.mp expired).1)
    · exact .refl a l c

/-- Jobs do chores and nothing else, if a producer that is called answers `a`. -/
theorem chores_runJob (supplier : Supplier σ α) (state : σ)
    (answers : ∀ producer call, supplier.reply producer call state = .ok a) (now : Time.Instant)
    (j : Job) (k : Key) (c : Cache α) : Chores a k c (c.runJob supplier now j state).1 := by
  have done : Chores a k c (c.without j) := .of_slots rfl
  unfold runJob
  cases j.duty with
  | call g producer => exact .of_slots rfl
  | reply g producer call =>
    dsimp only
    rw [answers]
    exact done.trans chores_settle
  | release producer call => exact done
  | poll period => exact chores_tick
  | collect token => exact done.trans chores_collect

end TaskWatch.Cache
