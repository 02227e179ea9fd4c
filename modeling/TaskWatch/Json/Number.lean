import TaskWatch.Json.Lexical
import TaskWatch.Numeric.Power

/-! Numbers of the JSON grammar.

    A number without fraction and exponent is an integer as long as it fits 64 bits. Any other is a
    double: the digits are gathered into a significand of 64 bits, digits that no longer fit are
    dropped, and the significand is multiplied or divided once by a power of ten. A number too large
    for a double breaks the grammar. -/

namespace TaskWatch.Json

open TaskWatch.Numeric

/-- A number as it was read. -/
inductive Number where
  | natural (n : Nat)
  | negative (n : Nat)
  | float (negative : Bool) (magnitude : Binary64)

/-- What was found, as it is named in a mismatch. -/
def Number.found : Number → Found
  | .natural n => .integer n
  | .negative n => .integer (-(n : Int))
  | .float below x => .float below x

/-- The largest significand. -/
def largestSignificand : Nat := twoTo 64 - 1

/-- Appends digits to a significand while it stays in range; the digits left over follow. -/
def gather (n : Nat) : List Char → Nat × List Char
  | [] => (n, [])
  | c :: rest =>
    let more := n * 10 + Text.digitValue c
    if more ≤ largestSignificand then gather more rest else (n, c :: rest)

/-- A power of ten as a double. -/
def doubleTenTo (k : Nat) : Binary64 := Binary64.ofNat (tenTo k)

/-- The significand times a power of ten; `none` if that is too large. -/
def scaled (significand : Nat) (exponent : Int) : Option Binary64 :=
  let f := Binary64.ofNat significand
  if 308 < exponent then (if f.isZero then some f else none)
  else if 0 ≤ exponent then
    let x := f.mul (doubleTenTo exponent.toNat)
    if x.isInfinite then none else some x
  else if -308 ≤ exponent then some (f.div (doubleTenTo (-exponent).toNat))
  else if -616 ≤ exponent then some ((f.div (doubleTenTo 308)).div (doubleTenTo (-exponent - 308).toNat))
  else some (Binary64.ofNat 0)

/-- The double with the given parts. -/
def floatOf (negative : Bool) (significand : Nat) (exponent : Int) (rest : List Char) :
    Except Fault (Number × List Char) :=
  match scaled significand exponent with
  | some x => .ok (.float negative x, rest)
  | none => .error .malformed

/-- The largest exponent that is told apart from larger ones. -/
def largestExponent : Nat := twoTo 31 - 1

/-- An exponent, after its letter. -/
def readExponent (negative : Bool) (significand : Nat) (start : Int) (cs : List Char) :
    Except Fault (Number × List Char) :=
  let (down, cs) := match cs with
    | '+' :: more => (false, more)
    | '-' :: more => (true, more)
    | _ => (false, cs)
  match cs with
  | [] => .error .ended
  | c :: _ =>
    if Text.isDigit c then
      let run := cs.takeWhile Text.isDigit
      let rest := cs.drop run.length
      let e := Text.number run
      if e > largestExponent then
        if significand = 0 || down then .ok (.float negative (Binary64.ofNat 0), rest)
        else .error .malformed
      else floatOf negative significand (if down then start - e else start + e) rest
    else .error .malformed

/-- The letter of an exponent. -/
def isExponentMark (c : Char) : Bool := c == 'e' || c == 'E'

/-- A fraction, after its point. -/
def readFraction (negative : Bool) (significand : Nat) (start : Int) (cs : List Char) :
    Except Fault (Number × List Char) :=
  let run := cs.takeWhile Text.isDigit
  let rest := cs.drop run.length
  if run.isEmpty then .error (if rest.isEmpty then .ended else .malformed)
  else
    let (n, dropped) := gather significand run
    let exponent := start - ((run.length - dropped.length : Nat) : Int)
    match rest with
    | c :: more => if isExponentMark c then readExponent negative n exponent more
      else floatOf negative n exponent rest
    | [] => floatOf negative n exponent rest

/-- What follows the digits of the whole part. -/
def readTail (negative : Bool) (significand dropped : Nat) (rest : List Char) : Except Fault (Number × List Char) :=
  let whole : Except Fault (Number × List Char) :=
    if 0 < dropped then floatOf negative significand dropped rest
    else if !negative then .ok (.natural significand, rest)
    else if significand = 0 || twoTo 63 < significand then
      .ok (.float true (Binary64.ofNat significand), rest)
    else .ok (.negative significand, rest)
  match rest with
  | c :: more =>
    if c = '.' then readFraction negative significand dropped more
    else if isExponentMark c then readExponent negative significand dropped more
    else whole
  | [] => whole

/-- A number, after its sign. -/
def readNumber (negative : Bool) (cs : List Char) : Except Fault (Number × List Char) :=
  match cs with
  | [] => .error .ended
  | '0' :: rest =>
    match rest with
    | c :: _ => if Text.isDigit c then .error .malformed else readTail negative 0 0 rest
    | [] => readTail negative 0 0 rest
  | c :: _ =>
    if Text.isDigit c then
      let run := cs.takeWhile Text.isDigit
      let (n, dropped) := gather 0 run
      readTail negative n dropped.length (cs.drop run.length)
    else .error .malformed

/-- Passes over an exponent, after its letter. -/
def skipExponent (cs : List Char) : Except Fault (List Char) :=
  let cs := match cs with
    | '+' :: more => more
    | '-' :: more => more
    | _ => cs
  match cs with
  | c :: rest => if Text.isDigit c then .ok (rest.dropWhile Text.isDigit) else .error .malformed
  | [] => .error .malformed

/-- Passes over a fraction, after its point. -/
def skipFraction (cs : List Char) : Except Fault (List Char) :=
  match cs with
  | c :: rest =>
    if Text.isDigit c then
      match rest.dropWhile Text.isDigit with
      | c :: more => if isExponentMark c then skipExponent more else .ok (c :: more)
      | [] => .ok []
    else .error .malformed
  | [] => .error .malformed

/-- Passes over a number, after its sign. A number that the text breaks off breaks the grammar
    here, since nobody waits for its value. -/
def skipNumber (cs : List Char) : Except Fault (List Char) :=
  let tail (rest : List Char) : Except Fault (List Char) :=
    match rest with
    | c :: more =>
      if c = '.' then skipFraction more
      else if isExponentMark c then skipExponent more
      else .ok rest
    | [] => .ok []
  match cs with
  | [] => .error .malformed
  | '0' :: rest =>
    match rest with
    | c :: _ => if Text.isDigit c then .error .malformed else tail rest
    | [] => tail rest
  | c :: rest => if Text.isDigit c then tail (rest.dropWhile Text.isDigit) else .error .malformed

end TaskWatch.Json
