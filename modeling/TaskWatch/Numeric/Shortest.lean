import TaskWatch.Numeric.Binary64
import TaskWatch.Text.Digits

/-! The shortest decimal that reads back as a given double.

    For one digit, two digits and so on up to seventeen, the two decimals of that many digits that
    enclose the number are tried. The first count of digits with one that reads back wins, and of
    two that do, the nearer, or the even one if they are equally near. -/

namespace TaskWatch.Numeric

/-- The decimal `significand * 10 ^ exponent`. -/
structure Decimal where
  significand : Nat
  exponent : Int
  deriving DecidableEq, Repr

namespace Decimal

/-- Numerator and denominator of the decimal. -/
def ratio (d : Decimal) : Nat × Nat :=
  if 0 ≤ d.exponent then (d.significand * tenTo d.exponent.toNat, 1)
  else (d.significand, tenTo (-d.exponent).toNat)

/-- The double nearest to the decimal is this one. -/
def readsAs (d : Decimal) (x : Binary64) : Bool :=
  let (n, k) := d.ratio
  Binary64.ofRatio n k == x

/-- How many digits stand before the point of `num / den`, which is at least one; counted below
    zero when the number begins with zeros behind the point. -/
def magnitude (num den : Nat) : Int :=
  if den ≤ num then ((Nat.toDigits 10 (num / den)).length : Int)
  else
    let inverse := (den + num - 1) / num
    let guess := (Nat.toDigits 10 inverse).length
    if num * tenTo (guess - 1) ≥ den then 2 - (guess : Int) else 1 - (guess : Int)

/-- The best decimal with so many digits that reads back, if there is one. -/
def withDigits? (x : Binary64) (count : Nat) : Option Decimal :=
  let num := x.units
  let den := twoTo 1074
  let exponent := magnitude num den - count
  let (n, d) :=
    if 0 ≤ exponent then (num, den * tenTo exponent.toNat) else (num * tenTo (-exponent).toNat, den)
  let below : Decimal := ⟨n / d, exponent⟩
  let above : Decimal := ⟨n / d + 1, exponent⟩
  let belowNearer := 2 * (n % d) < d || (2 * (n % d) = d && n / d % 2 = 0)
  match below.readsAs x, above.readsAs x with
  | true, true => some (if belowNearer then below else above)
  | true, false => some below
  | false, true => some above
  | false, false => none

/-- The decimal without a zero at its end. One is enough, since the upper of two neighbours of a
    digit each can be ten, and with more digits it is never a power of ten. -/
def trimmed (d : Decimal) : Decimal :=
  if d.significand % 10 = 0 then ⟨d.significand / 10, d.exponent + 1⟩ else d

/-- The shortest decimal that reads back as the double. -/
def shortest (x : Binary64) : Decimal :=
  if x.isZero then ⟨0, 0⟩
  else (((List.range 17).findSome? (fun i => withDigits? x (i + 1))).map trimmed).getD ⟨0, 0⟩

/-- The decimal written out in full, without an exponent and with at least one digit behind the
    point. -/
def positional (d : Decimal) : String :=
  if 0 ≤ d.exponent then
    String.ofList (Text.digits (d.significand * tenTo d.exponent.toNat)) ++ ".0"
  else
    let behind := (-d.exponent).toNat
    let whole := d.significand / tenTo behind
    String.ofList (Text.digits whole) ++ "." ++ Text.padded behind (d.significand % tenTo behind)

/-- The power of ten that the first digit stands for. -/
def leading (d : Decimal) : Int := d.exponent + ((Text.digits d.significand).length : Int) - 1

/-- The decimal with one digit before the point, if it has more than one digit, and a signed power
    of ten. -/
def scientific (d : Decimal) : String :=
  let sign := if d.leading < 0 then "-" else "+"
  let power := sign ++ String.ofList (Text.digits d.leading.natAbs)
  match Text.digits d.significand with
  | [] => "0e" ++ power
  | [c] => c.toString ++ "e" ++ power
  | c :: rest => c.toString ++ "." ++ String.ofList rest ++ "e" ++ power

/-- The decimal as a message shows it: in full where the first digit stands for a power of ten from
    the minus fifth to the fifteenth, else with its power of ten. -/
def text (d : Decimal) : String :=
  if d.significand = 0 || (-5 ≤ d.leading && d.leading ≤ 15) then d.positional else d.scientific

end Decimal

end TaskWatch.Numeric
