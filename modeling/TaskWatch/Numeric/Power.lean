/-! Powers of two and of ten, and the integers that a word of some bits holds. -/

namespace TaskWatch.Numeric

/-- Two to the power `k`. -/
def twoTo (k : Nat) : Nat := Nat.pow 2 k

/-- Ten to the power `k`. -/
def tenTo (k : Nat) : Nat := Nat.pow 10 k

/-- The integer fits a word of so many bits, one of which is for the sign. -/
def fitsWord (bits : Nat) (n : Int) : Bool :=
  let bound : Int := twoTo (bits - 1)
  n < bound && -bound ≤ n

end TaskWatch.Numeric
