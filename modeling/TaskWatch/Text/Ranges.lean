/-! Sets of code points, given as ranges in rising order. -/

namespace TaskWatch.Text

/-- The code point lies in one of the ranges, first and last included. -/
def within (ranges : List (Nat × Nat)) (n : Nat) : Bool :=
  ranges.any (fun (first, last) => first ≤ n && n ≤ last)

end TaskWatch.Text
