import TaskWatch.Proofs.Cache.Shared

/-! What is run next of an agenda that is shared.

    The job that runs next in the shared cache is the one that would run next in the cache of its party.
    What is due next for either party is due next for the shared cache. -/

namespace TaskWatch.Cache

variable {P : Parties} {T₁ T₂ : Tie} {agenda agenda₁ agenda₂ : Agenda} {best best₁ best₂ : Option Job}
  {j j₁ : Job} {now : Nat}

/-- Of what is due, the next job, or the job after it that is due as early. -/
def Agenda.choose (best : Option Job) (j : Job) : Option Job :=
  match best with
  | some b => if b.before j then some b else some j
  | none => some j

theorem Agenda.next?_eq (agenda : Agenda) (now : Nat) :
    agenda.next? now = (agenda.filter (Job.isDue now)).foldl Agenda.choose none :=
  rfl

/-- The best of all is the best of one party, and due no later than the best of the other. -/
inductive Best (P : Parties) (T₁ T₂ : Tie) : Option Job → Option Job → Option Job → Prop
  | none : Best P T₁ T₂ none none none
  | first {j j₁ : Job} {best₂ : Option Job} (like : j.Like P.first T₁ j₁)
      (ahead : ∀ i, best₂ = some i → j.before i = true) : Best P T₁ T₂ (some j) (some j₁) best₂
  | second {j j₂ : Job} {best₁ : Option Job} (like : j.Like P.second T₂ j₂)
      (ahead : ∀ i, best₁ = some i → j.before i = true) : Best P T₁ T₂ (some j) best₁ (some j₂)

theorem Best.swap (h : Best P T₁ T₂ best best₁ best₂) : Best P.swap T₂ T₁ best best₂ best₁ := by
  cases h with
  | none => exact .none
  | first like ahead => exact .second like ahead
  | second like ahead => exact .first like ahead

/-! ### What is due earlier -/

theorem before_iff {i j : Job} : i.before j = true ↔ i.due.getD 0 ≤ j.due.getD 0 := decide_eq_true_iff

theorem before_trans {i j k : Job} (h : i.before j = true) (h' : j.before k = true) :
    i.before k = true :=
  before_iff.mpr (Nat.le_trans (before_iff.mp h) (before_iff.mp h'))

theorem before_of_not {i j : Job} (h : i.before j = false) : j.before i = true := by
  have later := mt before_iff.mpr (Bool.eq_false_iff.mp h)
  exact before_iff.mpr (Nat.le_of_not_le later)

/-- Jobs that are alike are due at the same time. -/
theorem Job.Like.before {p : Party} {T : Tie} (like : j.Like p T j₁) (i : Job) :
    i.before j = i.before j₁ ∧ j.before i = j₁.before i := by
  rw [Job.before, Job.before, Job.before, Job.before, like.due]
  exact ⟨rfl, rfl⟩

theorem choose_before {b : Job} (earlier : b.before j = true) :
    Agenda.choose (some b) j = some b := by
  simp [Agenda.choose, earlier]

theorem choose_later {b : Job} (later : b.before j = false) : Agenda.choose (some b) j = some j := by
  simp [Agenda.choose, later]

/-- What is chosen is the best so far or the new one. -/
theorem choose_cases {i : Job} (found : Agenda.choose best j = some i) : best = some i ∨ j = i := by
  unfold Agenda.choose at found
  split at found
  · split at found
    · exact .inl found
    · exact .inr (Option.some.inj found)
  · exact .inr (Option.some.inj found)

/-! ### The best of all -/

/-- One more job of the first party is looked at. -/
theorem Best.step (h : Best P T₁ T₂ best best₁ best₂) (like : j.Like P.first T₁ j₁) :
    Best P T₁ T₂ (Agenda.choose best j) (Agenda.choose best₁ j₁) best₂ := by
  cases h with
  | none => exact .first like nofun
  | @first b b₁ _ alike ahead =>
    have same : b.before j = b₁.before j₁ := (like.before b).1.trans (alike.before j₁).2
    cases earlier : b.before j with
    | true =>
      rw [choose_before earlier, choose_before (same ▸ earlier)]
      exact .first alike ahead
    | false =>
      rw [choose_later earlier, choose_later (same ▸ earlier)]
      exact .first like fun i found => before_trans (before_of_not earlier) (ahead i found)
  | @second b b₂ _ alike ahead =>
    cases earlier : b.before j with
    | true =>
      rw [choose_before earlier]
      refine .second alike fun i found => ?_
      rcases choose_cases found with old | rfl
      · exact ahead i old
      · exact (like.before b).1 ▸ earlier
    | false =>
      -- the best so far of the first party is not due before that of the other, so it is passed too
      have passed : Agenda.choose best₁ j₁ = some j₁ := by
        cases best₁ with
        | none => rfl
        | some b₁ =>
          refine choose_later (Bool.eq_false_iff.mpr fun still => ?_)
          have : b.before j = true := (like.before b).1 ▸ before_trans (ahead b₁ rfl) still
          exact nomatch earlier.symm.trans this
      rw [choose_later earlier, passed]
      refine .first like fun i found => ?_
      obtain rfl := Option.some.inj found
      exact (alike.before j).1 ▸ before_of_not earlier

theorem Best.foldl (due : Shuffle (Job.Like P.first T₁) (Job.Like P.second T₂) agenda agenda₁ agenda₂) :
    ∀ {best best₁ best₂ : Option Job}, Best P T₁ T₂ best best₁ best₂ →
      Best P T₁ T₂ (agenda.foldl Agenda.choose best) (agenda₁.foldl Agenda.choose best₁)
        (agenda₂.foldl Agenda.choose best₂) := by
  induction due with
  | nil => exact id
  | left like _ ih => exact fun h => ih (h.step like)
  | right like _ ih => exact fun h => ih (h.swap.step like).swap

theorem Job.Like.isDue {p : Party} {T : Tie} (like : j.Like p T j₁) (now : Nat) :
    j.isDue now = j₁.isDue now := by
  rw [Job.isDue, Job.isDue, like.due]

/-- The job that runs next is the next of its party. -/
theorem best_next? (h : Shuffle (Job.Like P.first T₁) (Job.Like P.second T₂) agenda agenda₁ agenda₂)
    (now : Nat) : Best P T₁ T₂ (agenda.next? now) (agenda₁.next? now) (agenda₂.next? now) := by
  rw [Agenda.next?_eq, Agenda.next?_eq, Agenda.next?_eq]
  exact Best.foldl (h.filter (fun _ _ like => like.isDue now) fun _ _ like => like.isDue now) .none

end TaskWatch.Cache
