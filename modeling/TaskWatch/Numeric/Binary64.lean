import TaskWatch.Numeric.Power

/-! Non-negative numbers of IEEE 754 double precision.

    A double is a mantissa below 2^53 times a power of two. `ofRatio` gives the double nearest to a
    fraction, and the one with the even mantissa when two are equally near, which is the rounding
    that the standard prescribes for every arithmetic operation. Sums, products and quotients are
    therefore formed exactly, as fractions, and rounded once. -/

namespace TaskWatch.Numeric

/-- The number `mantissa * 2 ^ scale / 2 ^ 1074`. -/
structure Binary64 where
  mantissa : Nat
  scale : Nat
  deriving DecidableEq, Repr

/-- The quotient rounded to the nearest natural number, a tie to the even one. -/
def roundDiv (num den : Nat) : Nat :=
  let q := num / den
  let twice := 2 * (num % den)
  if twice < den then q
  else if twice > den then q + 1
  else if q % 2 = 0 then q else q + 1

namespace Binary64

/-- The double nearest to `num / den`. -/
def ofRatio (num den : Nat) : Binary64 :=
  let n := num * twoTo 1074
  let scale := (n / den).log2 - 52
  let m := roundDiv n (den * twoTo scale)
  if m = twoTo 53 then ⟨twoTo 52, scale + 1⟩ else ⟨m, scale⟩

/-- The double nearest to a natural number. -/
def ofNat (n : Nat) : Binary64 := ofRatio n 1

/-- The numerator of the number over `2 ^ 1074`. -/
def units (x : Binary64) : Nat := x.mantissa * twoTo x.scale

/-- The number is zero. -/
def isZero (x : Binary64) : Bool := x.mantissa == 0

/-- The number is too large to be finite. -/
def isInfinite (x : Binary64) : Bool := 2045 < x.scale

/-- The product of two numbers. -/
def mul (x y : Binary64) : Binary64 := ofRatio (x.units * y.units) (twoTo 2148)

/-- The quotient of two numbers. -/
def div (x y : Binary64) : Binary64 := ofRatio x.units y.units

/-- The greatest number whose square is at most `n`, sought bit by bit from the highest down. -/
def root (n : Nat) : Nat :=
  (List.range (n.log2 / 2 + 1)).foldr
    (fun bit found =>
      let more := found + twoTo bit
      if more * more ≤ n then more else found) 0

/-- The square root of a number. Half a unit stands for what is cut off its units; that is far finer
    than the double, so it is rounded as the root itself would be. -/
def sqrt (x : Binary64) : Binary64 :=
  let square := x.units * twoTo 1074
  let r := root square
  if r * r = square then ofRatio r (twoTo 1074) else ofRatio (2 * r + 1) (twoTo 1075)

/-- The number without its fraction. -/
def floor (x : Binary64) : Nat := x.units / twoTo 1074

/-- The 64 bits that store the number. -/
def bits (x : Binary64) : Nat :=
  if x.mantissa < twoTo 52 then x.mantissa else (x.scale + 1) * twoTo 52 + (x.mantissa - twoTo 52)

end Binary64

end TaskWatch.Numeric
