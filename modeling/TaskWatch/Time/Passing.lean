/-! Letting time pass.

    Something that changes by itself knows when it will do so next, and can be brought to rest at a
    given moment. Time then passes from one such moment to the next, and between them nothing
    happens. A leap of the clock skips the moments in between: what was due at one of them happens at
    the end of the leap. -/

namespace TaskWatch.Time

/-- Things that change by themselves as time passes. -/
class Passing (W : Type) where
  /-- The first moment after the present one at which something is due. -/
  wakes? : Nat → W → Option Nat
  /-- Does everything that is due at the present moment. -/
  settle : Nat → W → W

variable {W : Type} [Passing W]

/-- Lets time pass up to a moment, that moment included. -/
def advance (last now : Nat) (w : W) : W :=
  match Passing.wakes? now w with
  | none => w
  | some d =>
    if _h : now < d ∧ d ≤ last then advance last d (Passing.settle d w) else w
  termination_by last - now

/-- Lets the clock leap to a later moment. -/
def leap (now later : Nat) (w : W) : W :=
  Passing.settle later (Passing.settle now w)

/-- Lets time pass until something can be seen, or up to a moment. The answer says when that was. What
    is due at the last moment itself comes too late to be seen. -/
def await {β : Type} (seen : W → Option β) (deadline now : Nat) (w : W) : Nat × W × Option β :=
  match seen w with
  | some b => (now, w, some b)
  | none =>
    match Passing.wakes? now w with
    | none => (deadline, w, none)
    | some d =>
      if _h : now < d ∧ d < deadline then await seen deadline d (Passing.settle d w)
      else (deadline, w, none)
  termination_by deadline - now

end TaskWatch.Time
