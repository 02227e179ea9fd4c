import TaskWatch.Proofs.Bench.Passing
import TaskWatch.Proofs.Bench.Ran

/-! How time goes by on a bench.

    While somebody sleeps, only two things happen on a bench: a job runs that is due, or the bench is at
    rest and its clock moves on, but not past the moment at which a job is due. What both preserve holds
    whenever somebody has slept. -/

namespace TaskWatch.Bench

open Cache

variable {α : Type} {b b' b'' : Bench α} {ran later : List (Bench α × Job)}

/-- No job is due before the moment. -/
def Quiet (b : Bench α) (now : Nat) : Prop := ∀ j ∈ b.cache.agenda, ∀ d, j.due = some d → now ≤ d

/-- Time goes by on a bench until it is the other, and these jobs are run meanwhile. -/
inductive Elapses : Bench α → List (Bench α × Job) → Bench α → Prop
  | stay (b : Bench α) : Elapses b [] b
  | run {b b' : Bench α} {j : Job} {ran : List (Bench α × Job)} (listed : j ∈ b.cache.agenda)
      (due : j.isDue b.now = true) (rest : Elapses (b.run j) ran b') : Elapses b ((b, j) :: ran) b'
  | wait {b b' : Bench α} {ran : List (Bench α × Job)} {now : Nat} (idle : b.Idle)
      (forth : b.now ≤ now) (quiet : b.Quiet now) (rest : Elapses { b with now } ran b') :
      Elapses b ran b'

namespace Elapses

theorem trans (h : Elapses b ran b') (h' : Elapses b' later b'') : Elapses b (ran ++ later) b'' := by
  induction h with
  | stay b => exact h'
  | run listed due _ ih => exact .run listed due (ih h')
  | wait idle forth quiet _ ih => exact .wait idle forth quiet (ih h')

theorem runDue (fuel : Nat) (b : Bench α) : Elapses b (b.ranDue fuel) (b.runDue fuel) := by
  induction fuel generalizing b with
  | zero => exact .stay b
  | succ fuel ih =>
    unfold Bench.runDue Bench.ranDue
    cases next : b.cache.agenda.next? b.now with
    | none => exact .stay b
    | some j =>
      obtain ⟨listed, due⟩ := Agenda.next?_due next
      exact .run listed due (ih (b.run j))

theorem rest (b : Bench α) : Elapses b b.ran b.rest := runDue _ b

end Elapses

/-- What will be due on a bench at rest is due at a moment at which the bench may wake. -/
theorem Idle.mem_future {e : Nat} (idle : b.Idle) {j : Job} (listed : j ∈ b.cache.agenda)
    (due : j.due = some e) : e ∈ (b.cache.agenda.filterMap (·.due)).filter (fun d => b.now < d) :=
  List.mem_filter.mpr ⟨List.mem_filterMap.mpr ⟨j, listed, due⟩, decide_eq_true (idle.ahead listed due)⟩

/-- What is due after the present moment is due at the next moment at which the bench wakes, or later. -/
theorem quiet_of_wakes? {d : Nat} (idle : b.Idle) (wakes : b.cache.agenda.wakes? b.now = some d) :
    b.Quiet d := by
  intro j listed e due
  exact (List.min?_eq_some_iff.mp wakes).2 e (idle.mem_future listed due)

/-- A bench that never wakes has nothing that will be due. -/
theorem quiet_of_asleep (idle : b.Idle) (asleep : b.cache.agenda.wakes? b.now = none) (now : Nat) :
    b.Quiet now := by
  intro j listed e due
  have found := idle.mem_future listed due
  rw [List.min?_eq_none_iff.mp asleep] at found
  exact nomatch found

theorem Quiet.earlier {now later : Nat} (quiet : b.Quiet later) (le : now ≤ later) : b.Quiet now :=
  fun j listed d due => Nat.le_trans le (quiet j listed d due)

/-- So time goes by from one moment at which something is due to the next. -/
theorem Followed.elapses_advance {last now : Nat} (h : b.Followed) (idle : b.Idle) (present : b.now = now)
    (within : now ≤ last) :
    Elapses b (Time.advanced ranAt last now b) { Time.advance last now b with now := last } := by
  fun_induction Time.advance last now b with
  | case1 now b asleep =>
    subst present
    rw [Time.advanced.eq_def, asleep]
    exact .wait idle within (quiet_of_asleep idle asleep last) (.stay _)
  | case2 now b d wakes due ih =>
    subst present
    rw [Time.advanced.eq_def, wakes]
    simp only [due, and_self, dite_true]
    have forth : b.now ≤ d := Nat.le_of_lt due.1
    obtain ⟨settled, calm⟩ := h.settle idle forth
    have later := ih settled calm (now_settle d b) due.2
    exact .wait idle forth (quiet_of_wakes? idle wakes) ((Elapses.rest { b with now := d }).trans later)
  | case3 now b d wakes beyond =>
    subst present
    rw [Time.advanced.eq_def, wakes]
    simp only [beyond, dite_false]
    have ahead : b.now < d := wakes?_later wakes
    have quiet : b.Quiet last := (quiet_of_wakes? idle wakes).earlier (by omega)
    exact .wait idle within quiet (.stay _)

theorem Followed.elapses_sleep (h : b.Followed) (ms : Nat) : Elapses b (b.slept ms) (b.sleep ms) :=
  (Elapses.rest b).trans
    (h.rest.elapses_advance h.idle_rest (now_rest b) (Nat.le_add_right b.now ms))

end TaskWatch.Bench
