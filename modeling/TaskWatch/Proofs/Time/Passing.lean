import TaskWatch.Time.Passing

/-! What is kept as time passes.

    Time passes from one moment at which something is due to the next. What holds of a moment and what
    there is then, and is kept whenever all that is due at a later moment is done, holds in the end,
    however long it took. -/

namespace TaskWatch.Time

variable {W : Type} [Passing W] {P : Nat → W → Prop}

/-- What is kept by doing all that is due at a later moment. -/
def Kept (P : Nat → W → Prop) : Prop :=
  ∀ now later w, now ≤ later → P now w → P later (Passing.settle later w)

theorem Kept.advance (kept : Kept P) {last now : Nat} {w : W} (h : P now w) (within : now ≤ last) :
    ∃ moment, moment ≤ last ∧ P moment (Time.advance last now w) := by
  fun_induction Time.advance last now w with
  | case1 now w asleep => exact ⟨now, within, h⟩
  | case2 now w d wakes due ih => exact ih (kept now d w (Nat.le_of_lt due.1) h) due.2
  | case3 now w d wakes due => exact ⟨now, within, h⟩

theorem Kept.leap (kept : Kept P) {now later : Nat} {w : W} (h : P now w) (forth : now ≤ later) :
    P later (Time.leap now later w) :=
  kept now later _ forth (kept now now w (Nat.le_refl now) h)

theorem Kept.await (kept : Kept P) {β : Type} (seen : W → Option β) {deadline now : Nat} {w : W}
    (h : P now w) (within : now ≤ deadline) :
    ∃ moment, moment ≤ (Time.await seen deadline now w).1 ∧
      P moment (Time.await seen deadline now w).2.1 := by
  fun_induction Time.await seen deadline now w with
  | case1 now w b found => exact ⟨now, Nat.le_refl now, h⟩
  | case2 now w unseen asleep => exact ⟨now, within, h⟩
  | case3 now w unseen d wakes due ih =>
    exact ih (kept now d w (Nat.le_of_lt due.1) h) (Nat.le_of_lt due.2)
  | case4 now w unseen d wakes due => exact ⟨now, within, h⟩

end TaskWatch.Time
