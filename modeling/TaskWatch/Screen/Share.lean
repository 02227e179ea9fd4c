/-! Dividing a length among parts that follow one another.

    A part wants a number of cells, or it takes what the others leave and wants no fewer than some
    number. Where all that is wanted does not fit, a part of the second kind is served first. The
    others share the rest so that as much as possible is given, and so that the sizes of neighbours
    differ by as little as possible in all. As that measure is convex, such a division is reached
    by growing the parts from nothing, each time those neighbours together whose growth makes the
    least difference per cell.

    How one length is taken from another is left open where that decides what there is to divide, so that
    it can be asked whether a difference ever falls below zero. On the screen it ends at zero. -/

namespace TaskWatch.Screen

/-- What a part wants. -/
inductive Want where
  | exactly (n : Nat)
  /-- All that the others leave, and at least so many cells. -/
  | rest (least : Nat)
  deriving DecidableEq, Repr

/-- The sum of lengths. -/
def total (lengths : List Nat) : Nat := lengths.foldr (· + ·) 0

/-- The cells that a part cannot do without. -/
def Want.least : Want → Nat
  | exactly n => n
  | rest n => n

/-- The size of a part where all are served and `spare` cells are left. -/
def Want.size (spare : Nat) : Want → Nat
  | exactly n => n
  | rest n => n + spare

/-- A part that grows: the cells it has, and the most it may have. -/
structure Share where
  got : Nat
  most : Nat
  deriving DecidableEq, Repr

namespace Share

/-- The shares before any part has grown. -/
def start (length : Nat) : Want → Share
  | .exactly n => ⟨0, n⟩
  | .rest n => ⟨min n length, 0⟩

/-- The part may grow. -/
def grows (s : Share) : Bool := s.got < s.most

/-- The change of the difference from a neighbour when a part grows by a cell. -/
def growth (s : Share) : Option Share → Int
  | some neighbour => if s.got < neighbour.got then -1 else 1
  | none => 0

/-- Neighbours that could grow together: where they begin, how many they are, and how much the
    differences change if each grows by a cell. -/
structure Run where
  first : Nat
  count : Nat
  change : Int

/-- The neighbours from one place to another, if all of them may grow. -/
def run? (shares : List Share) (first count : Nat) : Option Run :=
  let members := (shares.drop first).take count
  match members.head?, members.getLast? with
  | some left, some right =>
    if members.length = count && members.all grows then
      let before := if first = 0 then none else shares[first - 1]?
      some ⟨first, count, left.growth before + right.growth shares[first + count]?⟩
    else none
  | _, _ => none

/-- The better of two runs: the one with less change per cell, and of two equal ones the longer. -/
def Run.better (a b : Run) : Run :=
  let (x, y) := (b.change * a.count, a.change * b.count)
  if x < y || (x = y && a.count < b.count) then b else a

/-- The run that is to grow next. -/
def next? (shares : List Share) : Option Run :=
  let places := List.range shares.length
  let runs := places.flatMap (fun i => places.filterMap (fun k => run? shares i (k + 1)))
  match runs with
  | [] => none
  | r :: rest => some (rest.foldl Run.better r)

/-- Lets each part of a run grow by a cell. -/
def grow (shares : List Share) (r : Run) : List Share :=
  shares.zipIdx.map (fun (s, i) =>
    if r.first ≤ i && i < r.first + r.count then { s with got := s.got + 1 } else s)

/-- The sizes, as numerators over the second result, when the parts grow until so many cells are
    given. Where the last cells are fewer than the parts that are to grow, each gets a fraction. The
    first argument bounds the steps. -/
def fill : Nat → Nat → List Share → List Nat × Nat
  | 0, _, shares => (shares.map got, 1)
  | steps + 1, cells, shares =>
    match next? shares with
    | none => (shares.map got, 1)
    | some r =>
      if cells < r.count then
        let part (s : Share) (i : Nat) : Nat :=
          s.got * r.count + (if r.first ≤ i && i < r.first + r.count then cells else 0)
        (shares.zipIdx.map (fun (s, i) => part s i), r.count)
      else fill steps (cells - r.count) (grow shares r)

end Share

/-- Takes one length from another; the difference ends at zero. -/
def shorten (n k : Nat) : Id Nat := pure (n - k)

/-- The sizes of the parts of a length, as numerators over the second result. -/
def sizesBy {m : Type → Type} [Monad m] (minus : Nat → Nat → m Nat) (length : Nat)
    (wants : List Want) : m (List Nat × Nat) := do
  let least := total (wants.map Want.least)
  if least ≤ length then
    let spare ← minus length least
    return (wants.map (Want.size spare), 1)
  else
    let shares := wants.map (Share.start length)
    let cells ← minus length (total (shares.map Share.got))
    return Share.fill (cells + 1) cells shares

/-- The quotient of two numbers, rounded to the nearest, halves upwards. -/
def nearest (n d : Nat) : Nat := (2 * n + d) / (2 * d)

/-- Parts of the given sizes, in fractions of a cell, one after another from `start` on, as pairs of
    boundaries. Each boundary is rounded to the nearest cell, so neighbouring parts always meet. -/
def boundaries (fraction start : Nat) : List Nat → List (Nat × Nat)
  | [] => []
  | n :: rest =>
    (nearest start fraction, nearest (start + n) fraction) :: boundaries fraction (start + n) rest

/-- The parts of a length, as pairs of boundaries. -/
def divideBy {m : Type → Type} [Monad m] (minus : Nat → Nat → m Nat) (length : Nat)
    (wants : List Want) : m (List (Nat × Nat)) := do
  let (parts, fraction) ← sizesBy minus length wants
  return boundaries fraction 0 parts

/-- The parts of a length on the screen. -/
def divide (length : Nat) (wants : List Want) : List (Nat × Nat) := (divideBy shorten length wants).run

end TaskWatch.Screen
