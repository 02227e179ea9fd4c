import TaskWatch.Bench.Run

/-! What a bench runs as time passes.

    The jobs that a bench runs are listed one after another, each with the bench as it was just before:
    that tells the moment at which the job ran, and what it found. -/

namespace TaskWatch

namespace Time

variable {W β : Type} [Passing W]

/-- What is done at the moments at which something is due, as time passes up to a moment. -/
def advanced (does : Nat → W → List β) (last now : Nat) (w : W) : List β :=
  match Passing.wakes? now w with
  | none => []
  | some d =>
    if _h : now < d ∧ d ≤ last then does d w ++ advanced does last d (Passing.settle d w) else []
  termination_by last - now

/-- What is done at such moments until something can be seen. -/
def awaited {γ : Type} (does : Nat → W → List β) (seen : W → Option γ) (deadline now : Nat) (w : W) :
    List β :=
  match seen w with
  | some _ => []
  | none =>
    match Passing.wakes? now w with
    | none => []
    | some d =>
      if _h : now < d ∧ d < deadline then
        does d w ++ awaited does seen deadline d (Passing.settle d w)
      else []
  termination_by deadline - now

end Time

namespace Bench

open Cache

variable {α : Type}

/-- The jobs that are run, so many at most, each with the bench that runs it. -/
def ranDue : Nat → Bench α → List (Bench α × Job)
  | 0, _ => []
  | fuel + 1, b =>
    match b.cache.agenda.next? b.now with
    | none => []
    | some j => (b, j) :: ranDue fuel (b.run j)

/-- The jobs that are run until none is due. -/
def ran (b : Bench α) : List (Bench α × Job) := ranDue (3 * b.cache.agenda.length) b

/-- The jobs that are run at a moment until none is due. -/
def ranAt (now : Nat) (b : Bench α) : List (Bench α × Job) := { b with now }.ran

/-- The jobs that are run while time passes. -/
def slept (b : Bench α) (ms : Nat) : List (Bench α × Job) :=
  b.ran ++ Time.advanced ranAt (b.now + ms) b.now b.rest

/-- The jobs that are run when the clock leaps. -/
def leapt (b : Bench α) (ms : Nat) : List (Bench α × Job) :=
  b.ranAt b.now ++ ranAt (b.now + ms) (Time.Passing.settle b.now b)

/-- The jobs that are run until something can be seen. -/
def awaited {β : Type} (seen : Bench α → Option β) (timeout : Nat) (b : Bench α) :
    List (Bench α × Job) :=
  if (seen b).isSome || timeout = 0 then []
  else b.ran ++ Time.awaited ranAt seen (b.now + timeout) b.now b.rest

namespace Run

variable [BEq α]

/-- The jobs that are run during a step. -/
def ranDuring (r : Run α) : Step α → List (Bench α × Job)
  | .changed i timeout =>
    (r.handle? i).elim [] fun h => r.bench.awaited (fun b => h.change? b.cache) timeout
  | .waitFor i wish timeout =>
    (r.handle? i).elim [] fun h =>
      r.bench.awaited (fun b => h.match? (fun e => wish.holds e) b.cache) timeout
  | .sleep ms => r.bench.slept ms
  | .jump ms => r.bench.leapt ms
  | _ => []

/-- The jobs that are run during a step and, unless the next is to come first, after it. -/
def ran (r : Run α) (s : Step α) (hold : Bool) : List (Bench α × Job) :=
  r.ranDuring s ++ if hold then [] else (r.act s).1.bench.ran

/-- The jobs that are run in the course of several steps. -/
def ranOver : Run α → List (Step α × Bool) → List (Bench α × Job)
  | _, [] => []
  | r, (s, hold) :: rest => r.ran s hold ++ ranOver (r.step s hold).1 rest

/-- A run of a cache that nobody has used, with these producers, from a moment on. -/
def fresh (grace : Nat) (producers : List (Producer α)) (now : Nat) (origin : Time.Stamp) : Run α :=
  { bench := { now, cache := { grace }, producers, origin } }

end Run

end Bench

end TaskWatch
