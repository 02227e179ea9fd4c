import TaskWatch.Json.Lexical
import TaskWatch.Numeric.Power
import TaskWatch.Text.Digits
import TaskWatch.Toml.Lexical

/-! Numbers of a TOML document.

    Digits may be set apart by single underscores between them. A decimal number has no zero in front
    and may have a sign; one in another base has neither restriction nor sign. Integers fit 64 bits.
    Of a number with a fraction or an exponent only the form matters here. -/

namespace TaskWatch.Toml

/-- Underscores stand only between digits and never two in a row; `start` says that no digit has come
    before, or none since the last underscore. -/
def underscoresFit (start : Bool) : List Char → Bool
  | [] => !start
  | c :: rest => if c = '_' then !start && underscoresFit true rest else underscoresFit false rest

/-- The values of the digits in front of a text, with single underscores between them. -/
def digitRun (digit? : Char → Option Nat) : Reader (List Nat) := fun cs =>
  let run := cs.takeWhile (fun c => (digit? c).isSome || c == '_')
  if underscoresFit true run then some (run.filterMap digit?, cs.drop run.length) else none

/-- The value of a digit of a base up to ten. -/
def baseDigit? (base : Nat) (c : Char) : Option Nat :=
  if Text.isDigit c && Text.digitValue c < base then some (Text.digitValue c) else none

/-- The number that digits of a base write. -/
def ofDigits (base : Nat) (ds : List Nat) : Nat := ds.foldl (fun n d => n * base + d) 0

/-- The integer, if it fits 64 bits. -/
def fitting? (n : Int) : Option Value :=
  if Numeric.fitsWord 64 n then some (.integer n) else none

/-- The text after a sign, and whether it was a minus sign. -/
def takeSign : List Char → Bool × List Char
  | '+' :: rest => (false, rest)
  | '-' :: rest => (true, rest)
  | cs => (false, cs)

/-- The exponent in front of a text. -/
def readExponent : Reader Int := fun cs => do
  match cs with
  | c :: rest =>
    if c = 'e' || c = 'E' then
      let (below, rest) := takeSign rest
      let (ds, rest) ← digitRun (baseDigit? 10) rest
      return ((if below then -(ofDigits 10 ds : Int) else ofDigits 10 ds), rest)
    else none
  | [] => none

/-- The digits of a fraction and the exponent in front of a text, where one of them may be
    missing. -/
def readFraction : Reader (List Nat × Int) := fun cs => do
  match cs with
  | '.' :: rest =>
    let (ds, rest) ← digitRun (baseDigit? 10) rest
    match rest with
    | c :: _ =>
      if c = 'e' || c = 'E' then
        let (exponent, rest) ← readExponent rest
        return ((ds, exponent), rest)
      else return ((ds, 0), rest)
    | [] => return ((ds, 0), [])
  | cs =>
    let (exponent, rest) ← readExponent cs
    return (([], exponent), rest)

/-- The decimal is too large for a double: it is nearer to the first power of two that no double
    reaches than to the largest double, or as near. Its first digits tell unless it is about as
    large, and then it is compared exactly. -/
def overflows (digits : List Nat) (exponent : Int) : Bool :=
  let significant := digits.dropWhile (· == 0)
  let size := (significant.length : Int) + exponent
  if significant.isEmpty || size < 308 then false
  else if 310 < size then true
  else
    let bound := Numeric.twoTo 1024 - Numeric.twoTo 970
    let value := ofDigits 10 significant
    if 0 ≤ exponent then bound ≤ value * Numeric.tenTo exponent.toNat
    else bound * Numeric.tenTo (-exponent).toNat ≤ value

/-- The text after `inf` or `nan`, if it begins with either. -/
def skipSpecial? : List Char → Option (List Char)
  | 'i' :: 'n' :: 'f' :: rest => some rest
  | 'n' :: 'a' :: 'n' :: rest => some rest
  | _ => none

/-- A decimal number. -/
def readDecimal : Reader Value := fun cs => do
  let (below, digits) := takeSign cs
  match skipSpecial? digits with
  | some rest => return (.float, rest)
  | none =>
    let (ds, rest) ← match digits with
      | '0' :: rest => some ([0], rest)
      | _ => digitRun (baseDigit? 10) digits
    match rest with
    | c :: _ =>
      if c = '.' || c = 'e' || c = 'E' then
        let ((fraction, exponent), rest) ← readFraction rest
        if !below && overflows (ds ++ fraction) (exponent - fraction.length) then none
        else return (.float, rest)
      else
        let n ← fitting? (if below then -(ofDigits 10 ds : Int) else ofDigits 10 ds)
        return (n, rest)
    | [] =>
      let n ← fitting? (if below then -(ofDigits 10 ds : Int) else ofDigits 10 ds)
      return (n, rest)

/-- A number in another base, after the letter of the base. -/
def readBased (base : Nat) (digit? : Char → Option Nat) : Reader Value := fun cs => do
  let (ds, rest) ← digitRun digit? cs
  let n ← fitting? (ofDigits base ds)
  return (n, rest)

/-- A number. -/
def readNumber : Reader Value
  | '0' :: 'x' :: rest => readBased 16 Json.hexValue? rest
  | '0' :: 'o' :: rest => readBased 8 (baseDigit? 8) rest
  | '0' :: 'b' :: rest => readBased 2 (baseDigit? 2) rest
  | cs => readDecimal cs

end TaskWatch.Toml
