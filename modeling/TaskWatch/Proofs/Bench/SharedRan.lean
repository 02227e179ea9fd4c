import TaskWatch.Proofs.Bench.SharedSteps

/-! The jobs that are run in a shared run.

    Whenever a bench runs a job that two parties share, each party could run its own jobs on a bench of
    its own. So whatever holds of a shared bench holds at every moment at which a job is run, however
    time passes. -/

namespace TaskWatch.Bench

open Cache

variable {α : Type} {P : Parties} {T T₁ T₂ : Tie} {b b₁ b₂ : Bench α} {x : Bench α × Job}

/-- The bench is shared by the parties, and the numbers of the second stand for others as given at
    least. -/
def Attended (P : Parties) (T : Tie) (b : Bench α) : Prop :=
  ∃ T₁ T₂ b₁ b₂, T.Within T₂ ∧ b.Shared P T₁ T₂ b₁ b₂

theorem Shares.attended (h : Shares P T₁ T₂ b b₁ b₂) (le : T.Within T₂) : b.Attended P T := by
  obtain ⟨T₁', T₂', -, le₂, shared⟩ := h
  exact ⟨T₁', T₂', b₁, b₂, le.trans le₂, shared⟩

namespace Attended

/-- The job that is run next is of one party or the other. -/
theorem run_next (h : b.Attended P T) {j : Job} (next : b.cache.agenda.next? b.now = some j) :
    (b.run j).Attended P T := by
  obtain ⟨T₁, T₂, b₁, b₂, le, shared⟩ := h
  rcases shared.run_next next with ⟨j₁, T₁', -, -, ran⟩ | ⟨j₂, T₂', -, le₂, ran⟩
  · exact ⟨T₁', T₂, _, b₂, le, ran⟩
  · exact ⟨T₁, T₂', b₁, _, le.trans le₂, ran⟩

theorem ranDue : ∀ (fuel : Nat) {b : Bench α}, b.Attended P T → x ∈ b.ranDue fuel →
    x.1.Attended P T ∧ x.2 ∈ x.1.cache.agenda
  | 0, _, _, listed => nomatch listed
  | fuel + 1, b, h, listed => by
    unfold Bench.ranDue at listed
    cases next : b.cache.agenda.next? b.now with
    | none =>
      rw [next] at listed
      exact nomatch listed
    | some j =>
      rw [next] at listed
      rcases List.mem_cons.mp listed with rfl | later
      · exact ⟨h, (Agenda.next?_due next).1⟩
      · exact ranDue fuel (h.run_next next) later

theorem rest (h : b.Attended P T) : b.rest.Attended P T ∧ b.rest.Idle := by
  obtain ⟨T₁, T₂, b₁, b₂, le, shared⟩ := h
  exact ⟨shared.rest.attended le, shared.followed.idle_rest⟩

theorem clock (h : b.Attended P T) (idle : b.Idle) {now : Nat} (later : b.now ≤ now) :
    ({ b with now } : Bench α).Attended P T := by
  obtain ⟨T₁, T₂, b₁, b₂, le, shared⟩ := h
  exact ⟨T₁, T₂, _, _, le, shared.clock idle later⟩

/-- Whatever is run while time passes. -/
theorem advanced {last now : Nat} (h : b.Attended P T) (idle : b.Idle) (present : b.now = now)
    (listed : x ∈ Time.advanced ranAt last now b) : x.1.Attended P T ∧ x.2 ∈ x.1.cache.agenda := by
  fun_induction Time.advanced ranAt last now b with
  | case1 now b asleep => exact nomatch listed
  | case2 now b d wakes due ih =>
    have later : b.now ≤ d := present ▸ Nat.le_of_lt due.1
    rcases List.mem_append.mp listed with first | rest
    · exact (h.clock idle later).ranDue _ first
    · obtain ⟨settled, calm⟩ := (h.clock idle later).rest
      exact ih settled calm (now_settle d b) rest
  | case3 now b d wakes due => exact nomatch listed

theorem awaited_on {β : Type} {seen : Bench α → Option β} {deadline now : Nat} (h : b.Attended P T)
    (idle : b.Idle) (present : b.now = now) (listed : x ∈ Time.awaited ranAt seen deadline now b) :
    x.1.Attended P T ∧ x.2 ∈ x.1.cache.agenda := by
  fun_induction Time.awaited ranAt seen deadline now b with
  | case1 => exact nomatch listed
  | case2 => exact nomatch listed
  | case3 now b unseen d wakes due ih =>
    have later : b.now ≤ d := present ▸ Nat.le_of_lt due.1
    rcases List.mem_append.mp listed with first | rest
    · exact (h.clock idle later).ranDue _ first
    · obtain ⟨settled, calm⟩ := (h.clock idle later).rest
      exact ih settled calm (now_settle d b) rest
  | case4 => exact nomatch listed

theorem ran (h : b.Attended P T) (listed : x ∈ b.ran) : x.1.Attended P T ∧ x.2 ∈ x.1.cache.agenda :=
  h.ranDue _ listed

theorem slept (h : b.Attended P T) {ms : Nat} (listed : x ∈ b.slept ms) :
    x.1.Attended P T ∧ x.2 ∈ x.1.cache.agenda := by
  rcases List.mem_append.mp listed with first | rest
  · exact h.ran first
  · exact h.rest.1.advanced h.rest.2 (now_rest b) rest

theorem leapt (h : b.Attended P T) {ms : Nat} (listed : x ∈ b.leapt ms) :
    x.1.Attended P T ∧ x.2 ∈ x.1.cache.agenda := by
  have later : b.rest.now ≤ b.now + ms := now_rest b ▸ Nat.le_add_right ..
  rcases List.mem_append.mp listed with first | last
  · exact h.ran first
  · exact (h.rest.1.clock h.rest.2 later).ran last

theorem awaited {β : Type} {seen : Bench α → Option β} (h : b.Attended P T) {timeout : Nat}
    (listed : x ∈ b.awaited seen timeout) : x.1.Attended P T ∧ x.2 ∈ x.1.cache.agenda := by
  unfold Bench.awaited at listed
  split at listed
  · exact nomatch listed
  · rcases List.mem_append.mp listed with first | rest
    · exact h.ran first
    · exact h.rest.1.awaited_on h.rest.2 (now_rest b) rest

end Attended

namespace Run

variable [BEq α] {mine : List Bool} {r r₁ r₂ : Run α} {s : Step α} {own : Key → Bool}

omit [BEq α] in
theorem Shares.attended (h : Shares P T₁ T₂ mine r r₁ r₂) (le : T.Within T₂) :
    r.bench.Attended P T := by
  obtain ⟨T₁', T₂', -, le₂, shared⟩ := h
  exact ⟨T₁', T₂', _, _, le.trans le₂, shared.bench⟩

/-- Whatever is run during a step. -/
theorem ranDuring_attended (h : r.bench.Attended P T) (listed : x ∈ r.ranDuring s) :
    x.1.Attended P T ∧ x.2 ∈ x.1.cache.agenda := by
  cases s with
  | changed i timeout =>
    rw [ranDuring] at listed
    cases held : r.handle? i with
    | none => rw [held] at listed; exact nomatch listed
    | some hd =>
      rw [held, Option.elim_some] at listed
      exact h.awaited listed
  | waitFor i wish timeout =>
    rw [ranDuring] at listed
    cases held : r.handle? i with
    | none => rw [held] at listed; exact nomatch listed
    | some hd =>
      rw [held, Option.elim_some] at listed
      exact h.awaited listed
  | sleep ms => exact h.slept listed
  | jump ms => exact h.leapt listed
  | _ => exact nomatch listed

namespace Shared

theorem act_attended (h : Shared P T₁ T₂ mine r r₁ r₂)
    (first : ∀ k, own k = true → P.first.keys k) (second : ∀ k, own k = false → P.second.keys k)
    (fair : s.Fair P) : (r.act s).1.bench.Attended P T₂ := by
  cases others : s.isOthers own mine with
  | true =>
    obtain ⟨_, _, alike, -⟩ := h.swap.act_own (of_others second fair others)
    exact alike.1.swap.attended (.refl T₂)
  | false =>
    rcases of_own first fair others with of | ⟨key, handle⟩
    · obtain ⟨_, _, alike, -⟩ := h.act_own of
      exact alike.1.attended (.refl T₂)
    · exact (h.act_common key handle).1.attended (.refl T₂)

/-- Whatever is run in the course of several steps. -/
theorem ranOver_attended (first : ∀ k, own k = true → P.first.keys k)
    (second : ∀ k, own k = false → P.second.keys k) : ∀ (done : List (Step α × Bool)) {T₁ T₂ : Tie}
    {mine : List Bool} {r r₁ r₂ : Run α}, Shared P T₁ T₂ mine r r₁ r₂ → T.Within T₂ →
    (∀ s ∈ done, s.1.Fair P) → Unhurried own r mine done →
    ∀ x ∈ r.ranOver done, x.1.Attended P T ∧ x.2 ∈ x.1.cache.agenda
  | [], _, _, _, _, _, _, _, _, _, _, _, listed => nomatch listed
  | (s, hold) :: done, T₁, T₂, mine, r, r₁, r₂, h, le, fair, unhurried, x, listed => by
    have fair_s : s.Fair P := fair _ (List.mem_cons_self ..)
    obtain ⟨r₁', r₂', ⟨T₁', T₂', -, le₂, shared⟩, -⟩ :=
      h.step_thinned first second fair_s hold unhurried.first done
    rcases List.mem_append.mp listed with now | later
    · rcases List.mem_append.mp now with during | after
      · exact ranDuring_attended ⟨T₁, T₂, _, _, le, h.bench⟩ during
      · split at after
        · exact nomatch after
        · obtain ⟨U₁, U₂, b₁, b₂, le', acted⟩ := h.act_attended first second fair_s
          exact Attended.ran ⟨U₁, U₂, b₁, b₂, le.trans le', acted⟩ after
    · exact shared.ranOver_attended first second done (le.trans le₂)
        (fun s' listed => fair s' (List.mem_cons_of_mem _ listed)) unhurried.rest x later

end Shared

end Run

end TaskWatch.Bench
