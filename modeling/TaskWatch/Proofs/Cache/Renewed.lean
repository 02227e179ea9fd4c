import TaskWatch.Proofs.Cache.Shared
import TaskWatch.Proofs.Cache.Tended

/-! A cleared cache and a new one.

    Of a cache that was cleared, jobs are left over: calls of producers that nobody can stop, or nobody
    minds. Whoever comes with other producers shares the cache with those jobs, whose party has no query
    to its name. So to the newcomers it is like a new cache, and the jobs that are left over change no
    slot. -/

namespace TaskWatch.Cache

variable {α σ : Type} {T T₁ T₂ : Tie} {used : Nat → Prop} {c c₁ c₂ : Cache α} {j j' : Job}

/-! ### Who was there and who comes -/

/-- Everybody is one party, with the producers that are used, and there is no other. -/
def Parties.sole (used : Nat → Prop) : Parties where
  first := ⟨fun _ => True, used⟩
  second := ⟨fun _ => False, fun _ => False⟩
  keys _ _ := id
  producers _ _ := id

/-- Newcomers have all the queries, and of those before them only the producers are left. -/
def Parties.newcomers (used : Nat → Prop) : Parties where
  first := ⟨fun _ => True, fun p => ¬ used p⟩
  second := ⟨fun _ => False, used⟩
  keys _ _ := id
  producers _ := id

theorem not_like_nobody : ¬ j.Like (Parties.sole used).second T j' := by
  obtain ⟨number, key, duty, due, turn⟩ := j
  rintro ⟨-, -, duties, -, own⟩
  generalize j'.duty = duty' at duties
  cases duties with
  | call _ his => exact his
  | reply _ _ his => exact his
  | release _ his => exact his
  | poll period => exact own rfl
  | collect => exact own rfl

/-! ### What is left over -/

/-- Without slots nothing waits for one. -/
theorem untimed_of_vacant (posted : ∀ k, c.Posted k) (vacant : c.slots = {}) (listed : j ∈ c.agenda) :
    j.isTimer = false := by
  refine Bool.eq_false_iff.mpr fun waits => ?_
  obtain ⟨s, there, -⟩ := posted j.key j listed rfl waits
  rw [vacant] at there
  exact nomatch there

/-- A job that is left over goes with itself. -/
theorem Job.Like.left_over {n m : Nat} (like : j.Like (Parties.sole used).first T j')
    (numbers : ∀ a x, T.number a x → a ≤ n) (jobs : ∀ a x, T.job a x → a ≤ m)
    (untimed : j.isTimer = false) : j.Like (Parties.newcomers used).second (.upTo n m) j := by
  have own : j.isTimer = true → False := fun timer => nomatch untimed.symm.trans timer
  refine ⟨⟨rfl, jobs _ _ like.number⟩, rfl, ?_, rfl, own⟩
  obtain ⟨number, key, duty, due, turn⟩ := j
  obtain ⟨-, -, duties, -, -⟩ := like
  generalize j'.duty = duty' at duties
  cases duties with
  | call tied his => exact .call ⟨rfl, numbers _ _ tied⟩ his
  | reply call tied his => exact .reply call ⟨rfl, numbers _ _ tied⟩ his
  | release call his => exact .release call his
  | poll period => exact .poll period
  | collect tied => exact .collect ⟨rfl, numbers _ _ tied⟩

namespace Shared

/-- A cache without slots serves newcomers as a new one does. -/
theorem renewed (h : Shared (.sole used) T₁ T₂ c c₁ c₂) (vacant : c.slots = {})
    (alive : c.abandoned = false) (posted : ∀ k, c.Posted k) :
    Shared (.newcomers used) .none (.upTo c.sequence c.begun) c { grace := c.grace } c where
  numbers := .upTo c.sequence
  jobs := .upTo c.begun
  grace := ⟨rfl, rfl⟩
  abandoned := ⟨alive, rfl⟩
  slots := by
    rw [vacant]
    exact .nil
  agenda := by
    refine (Shuffle.nil_right_iff.mpr (List.forall₂_same.mpr fun j listed => ?_)).swap
    rcases h.agenda.mem listed with ⟨j₁, -, like⟩ | ⟨j₂, -, like⟩
    · exact like.left_over (fun a x tied => (h.numbers.given₁ a x tied).1)
        (fun a x tied => (h.jobs.given₁ a x tied).1) (untimed_of_vacant posted vacant listed)
    · exact (not_like_nobody like).elim
  remains := by
    refine (Shuffle.nil_right_iff.mpr (List.forall₂_same.mpr fun r listed => ?_)).swap
    rcases h.remains.mem listed with ⟨r₁, -, like⟩ | ⟨r₂, -, like⟩
    · exact ⟨⟨rfl, (h.numbers.given₁ _ _ like.birth).1⟩, rfl, rfl⟩
    · exact ⟨⟨rfl, (h.numbers.given₂ _ _ like.birth).1⟩, rfl, rfl⟩

/-- A job of the second party is told by its number. -/
theorem second_of_number {P : Parties} (h : Shared P T₁ T₂ c c₁ c₂) {n : Nat}
    (tied : T₂.job j.number n) (listed : j ∈ c.agenda) : ∃ j₂, j.Like P.second T₂ j₂ := by
  rcases h.agenda.mem listed with ⟨j₁, -, like⟩ | ⟨j₂, -, like⟩
  · exact (h.jobs.apart _ _ _ like.number tied).elim
  · exact ⟨j₂, like⟩

/-- The result of a fetch that is left over belongs to no slot. -/
theorem slots_settle (h : Shared (.newcomers used) T₁ T₂ c c₁ c₂) {g g₂ : Nat}
    (tied : T₂.number g g₂) (now : Time.Instant) (k : Key) (result : Except String α) :
    (c.settle now k g result).slots = c.slots := by
  unfold Cache.settle
  split
  · rfl
  · have finds := h.finds k
    unfold commit
    generalize c.slots.find? k = found, c₁.slots.find? k = found₁, c₂.slots.find? k = found₂ at finds
    cases finds with
    | none => rfl
    | second own => exact own.elim
    | @first s s₁ _ _ like =>
      -- the fetch in flight is a newcomer's, and no number that is left over was given to it
      have overtaken : s.inFlight.any (fun f => f.generation == g) = false :=
        (rel_any (q := fun _ => false) like.inFlight fun _ _ flights =>
          h.numbers.swap.beq_apart tied flights.generation).trans (by cases s₁.inFlight <;> rfl)
      dsimp only
      rw [overtaken]
      rfl

/-- A job that is left over is no timer and changes no slot. -/
theorem slots_runJob (h : Shared (.newcomers used) T₁ T₂ c c₁ c₂)
    (like : j.Like (Parties.newcomers used).second T₂ j') (supplier : Supplier σ α)
    (now : Time.Instant) (s : σ) :
    j.isTimer = false ∧ (c.runJob supplier now j s).1.slots = c.slots := by
  have rest := (h.swap.without like).swap
  obtain ⟨number, key, duty, due, turn⟩ := j
  obtain ⟨-, -, duties, -, own⟩ := like
  generalize j'.duty = duty' at duties
  cases duties with
  | call => exact ⟨rfl, rfl⟩
  | reply call tied => exact ⟨rfl, rest.slots_settle tied now key (supplier.reply _ call s)⟩
  | release => exact ⟨rfl, rfl⟩
  | poll => exact (own rfl).elim
  | collect => exact (own rfl).elim

end Shared

end TaskWatch.Cache
