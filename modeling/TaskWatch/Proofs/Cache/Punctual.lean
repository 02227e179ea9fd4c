import TaskWatch.Proofs.Cache.Timers

/-! Courses that are punctual.

    A course may let its clock move on past jobs that are due. A punctual one does not: as long as a
    timer is due, time stands still, though whoever is quick can do something first. A clock that
    leaps goes past the time of a timer only as it leaps, and then stands still until the timer has
    run. Runs of a bench are such courses, since its clock moves on only once it has come to rest.
    -/

namespace TaskWatch.Cache

open Relation

variable {α : Type}

namespace Course

variable {w w' : Course α}

/-- No timer is due. -/
def Rested (w : Course α) : Prop :=
  ∀ j ∈ w.cache.agenda, j.isTimer = true → j.isDue w.now.elapsed = false

instance (w : Course α) : Decidable w.Rested := by
  unfold Rested
  infer_instance

/-- A step that takes time only if no timer is due. -/
structure Timely (w w' : Course α) : Prop where
  step : Step w w'
  urgent : w'.now.elapsed = w.now.elapsed ∨ w.Rested

/-- A course that took time only while no timer was due. -/
def Punctual (w : Course α) : Prop :=
  ∃ grace now, ReflTransGen Timely (fresh grace now) w

theorem leads_of_timely (run : ReflTransGen Timely w w') : w.Leads w' :=
  ReflTransGen.mono (fun _ _ timely => timely.step) _ _ run

theorem Punctual.reachable (hw : w.Punctual) : w.Reachable := by
  obtain ⟨grace, now, run⟩ := hw
  exact ⟨grace, now, leads_of_timely run⟩

theorem Punctual.trans (hw : w.Punctual) (run : ReflTransGen Timely w w') : w'.Punctual := by
  obtain ⟨grace, now, before⟩ := hw
  exact ⟨grace, now, before.trans run⟩

/-- The clock does not go back. -/
theorem Step.elapsed (step : Step w w') : w.now.elapsed ≤ w'.now.elapsed := by
  cases step with
  | pass now later => exact later
  | _ => exact Nat.le_refl _

/-- What is booked takes no time. -/
theorem Step.now_of_booked {n : Note α} (step : Step w w') (past : w'.past = n :: w.past) :
    w'.now = w.now := by
  cases step with
  | pass now later => exact (List.cons_ne_self _ _ past.symm).elim
  | _ => rfl

end Course

/-! ### Courses that are played punctually -/

/-- The move lets time pass. -/
def Move.waits : Move α → Bool
  | .pass _ => true
  | _ => false

namespace Course

/-- The moves let time pass only while no timer is due. -/
def paces (w : Course α) : List (Move α) → Bool
  | [] => true
  | m :: rest => (!m.waits || decide w.Rested) && (w.play m).paces rest

/-- A move that shows on the clock or in the book is a step. -/
theorem step_of_moved (w : Course α) (m : Move α)
    (moved : (w.play m).now.elapsed ≠ w.now.elapsed ∨ (w.play m).past.length ≠ w.past.length) :
    Step w (w.play m) := by
  refine (step_play w m).resolve_left fun same => ?_
  rw [same] at moved
  exact moved.elim (· rfl) (· rfl)

/-- Only waiting takes time. -/
theorem now_play (w : Course α) {m : Move α} (busy : m.waits = false) : (w.play m).now = w.now := by
  unfold play
  split
  · rfl
  · cases m with
    | pass wait => exact nomatch busy
    | run number delay answer =>
      dsimp only
      split
      · split <;> rfl
      · rfl
    | invalidate k => rfl
    | clear => rfl
    | _ =>
      dsimp only
      split <;> rfl

theorem timely_play (w : Course α) {m : Move α} (urgent : m.waits = true → w.Rested) :
    ReflTransGen Timely w (w.play m) := by
  rcases step_play w m with same | step
  · rw [same]
  · refine .single ⟨step, ?_⟩
    cases waits : m.waits with
    | false => exact .inl (congrArg Time.Instant.elapsed (now_play w waits))
    | true => exact .inr (urgent waits)

theorem timely_plays : ∀ (moves : List (Move α)) (w : Course α), w.paces moves = true →
    ReflTransGen Timely w (w.plays moves)
  | [], _, _ => .refl
  | m :: rest, w, paced => by
    obtain ⟨urgent, paced⟩ := Bool.and_eq_true_iff.mp paced
    refine (timely_play w fun waits => ?_).trans (timely_plays rest (w.play m) paced)
    simpa [waits] using urgent

/-- Whatever is played from the beginning and takes time only while no timer is due is punctual. -/
theorem punctual_played {grace : Nat} {moves : List (Move α)}
    (paced : (fresh grace { elapsed := 0, wall := Time.benchStart }).paces moves = true) :
    (played grace moves).Punctual :=
  ⟨grace, _, timely_plays moves _ paced⟩

end Course

end TaskWatch.Cache
