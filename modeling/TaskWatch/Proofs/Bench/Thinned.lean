import TaskWatch.Proofs.Bench.Follows

/-! Runs without what others do.

    Of a run, only what one party does is kept: what is done to its own queries and with its own handles,
    and what concerns nobody in particular. What others did is taken out. If they let happen what was
    due, or waited, only the time that passed is left of it. The party's handles are numbered as they
    are given out to it alone. -/

namespace TaskWatch.Bench

open Cache

variable {α : Type}

/-- The query that a step names. -/
def Step.key? : Step α → Option Key
  | .subscribe key _ _ => some key
  | .entry key _ => some key
  | .refetch key => some key
  | .invalidate key => some key
  | _ => none

/-- The handle that a step is done with. -/
def Step.handle? : Step α → Option Nat
  | .unsubscribe i => some i
  | .current i => some i
  | .latest i => some i
  | .keyOf i => some i
  | .changed i _ => some i
  | .waitFor i _ _ => some i
  | _ => none

/-- The step may take time. -/
def Step.waits : Step α → Bool
  | .changed _ _ => true
  | .waitFor _ _ _ => true
  | _ => false

/-- The step, with other numbers for the handles. -/
def Step.renumbered (f : Nat → Nat) : Step α → Step α
  | .unsubscribe i => .unsubscribe (f i)
  | .current i => .current (f i)
  | .latest i => .latest (f i)
  | .keyOf i => .keyOf (f i)
  | .changed i timeout => .changed (f i) timeout
  | .waitFor i wish timeout => .waitFor (f i) wish timeout
  | s => s

/-- What comes of a step, with other numbers for the handles. -/
def Outcome.renumbered (f : Nat → Nat) : Outcome α → Outcome α
  | .handle i => .handle (f i)
  | o => o

/-- The number that a handle has among those of one party, if they are its own that are marked. -/
def ownNumber (mine : List Bool) (i : Nat) : Nat := (mine.take i).count true

/-- The step is about a query or a handle of others. -/
def Step.isOthers (own : Key → Bool) (mine : List Bool) (s : Step α) : Bool :=
  s.key?.any (fun k => !own k) || s.handle?.any (fun i => mine[i]? == some false)

/-- The marks once something came of a step: if a handle is given out, it is marked or not. -/
def Outcome.marks (mine : List Bool) (own : Bool) : Outcome α → List Bool
  | .handle _ => mine ++ [own]
  | _ => mine

namespace Run

variable [BEq α]

/-- The marks after a step. -/
def marks (own : Key → Bool) (r : Run α) (mine : List Bool) (s : Step α) : List Bool :=
  (r.act s).2.marks mine (!s.isOthers own mine)

/-- The marks after several steps. -/
def marked (own : Key → Bool) : Run α → List Bool → List (Step α × Bool) → List Bool
  | _, mine, [] => mine
  | r, mine, (s, hold) :: rest => marked own (r.step s hold).1 (r.marks own mine s) rest

/-- The steps of a run without those of others. -/
def thinned (own : Key → Bool) : Run α → List Bool → List (Step α × Bool) → List (Step α × Bool)
  | _, _, [] => []
  | r, mine, (s, hold) :: rest =>
    let after := (r.step s hold).1
    let later := thinned own after (r.marks own mine s) rest
    if s.isOthers own mine then
      if hold then later else (.sleep (after.bench.now - r.bench.now), false) :: later
    else (s.renumbered (ownNumber mine), hold) :: later

variable {own : Key → Bool} {r : Run α} {mine : List Bool} {s : Step α}

theorem thinned_own (others : s.isOthers own mine = false) (hold : Bool)
    (rest : List (Step α × Bool)) : r.thinned own mine ((s, hold) :: rest) =
      (s.renumbered (ownNumber mine), hold) ::
        (r.step s hold).1.thinned own (r.marks own mine s) rest := by
  rw [thinned, others, if_neg Bool.false_ne_true]

theorem thinned_held (others : s.isOthers own mine = true) (rest : List (Step α × Bool)) :
    r.thinned own mine ((s, true) :: rest) =
      (r.step s true).1.thinned own (r.marks own mine s) rest := by
  rw [thinned, others, if_pos rfl, if_pos rfl]

theorem thinned_let (others : s.isOthers own mine = true) (rest : List (Step α × Bool)) :
    r.thinned own mine ((s, false) :: rest) =
      (.sleep ((r.step s false).1.bench.now - r.bench.now), false) ::
        (r.step s false).1.thinned own (r.marks own mine s) rest := by
  rw [thinned, others, if_pos rfl, if_neg Bool.false_ne_true]

theorem thinned_append (before after : List (Step α × Bool)) :
    ∀ (r : Run α) (mine : List Bool), r.thinned own mine (before ++ after) =
      r.thinned own mine before ++
        (r.steps before).thinned own (r.marked own mine before) after := by
  induction before with
  | nil => exact fun _ _ => rfl
  | cons step before ih =>
    obtain ⟨s, hold⟩ := step
    intro r mine
    have rest := ih (r.step s hold).1 (r.marks own mine s)
    rw [List.cons_append]
    cases others : s.isOthers own mine with
    | false => rw [thinned_own others, thinned_own others, rest]; rfl
    | true =>
      cases hold with
      | true => rw [thinned_held others, thinned_held others, rest]; rfl
      | false => rw [thinned_let others, thinned_let others, rest]; rfl

end Run

end TaskWatch.Bench
