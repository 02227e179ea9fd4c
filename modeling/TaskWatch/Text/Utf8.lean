/-! Reading text from octets.

    What is not well-formed is read as replacement characters: one for each octet that begins nothing
    and one for each sequence that breaks off, however many octets of it there were. -/

namespace TaskWatch.Text

/-- The character that stands for what cannot be read. -/
def replacement : Char := '\ufffd'

/-- What the first octet of a sequence of several says: how many follow, the bits that it gives, and
    between which values the second octet lies. -/
def leadOf? (b : UInt8) : Option (Nat × Nat × UInt8 × UInt8) :=
  let n := b.toNat
  if 0xC2 ≤ n && n ≤ 0xDF then some (1, n - 0xC0, 0x80, 0xBF)
  else if n = 0xE0 then some (2, 0, 0xA0, 0xBF)
  else if n = 0xED then some (2, 0xD, 0x80, 0x9F)
  else if 0xE1 ≤ n && n ≤ 0xEF then some (2, n - 0xE0, 0x80, 0xBF)
  else if n = 0xF0 then some (3, 0, 0x90, 0xBF)
  else if 0xF1 ≤ n && n ≤ 0xF3 then some (3, n - 0xF0, 0x80, 0xBF)
  else if n = 0xF4 then some (3, 4, 0x80, 0x8F)
  else none

/-- A sequence partly read: how many octets are still to come, the bits so far, and between which
    values the next octet lies. -/
structure Sequence where
  more : Nat
  bits : Nat
  low : UInt8
  high : UInt8

/-- Begins with an octet: a character, a sequence, or something that cannot be read. -/
def begin (b : UInt8) : List Char × Option Sequence :=
  if b < 0x80 then ([Char.ofNat b.toNat], none)
  else match leadOf? b with
    | some (more, bits, low, high) => ([], some ⟨more, bits, low, high⟩)
    | none => ([replacement], none)

/-- Takes up an octet. The answer holds the characters that it completes. -/
def takeOctet (s : Option Sequence) (b : UInt8) : List Char × Option Sequence :=
  match s with
  | none => begin b
  | some s =>
    if s.low ≤ b && b ≤ s.high then
      let bits := s.bits * 64 + (b.toNat - 0x80)
      if s.more ≤ 1 then ([Char.ofNat bits], none) else ([], some ⟨s.more - 1, bits, 0x80, 0xBF⟩)
    else
      let (cs, next) := begin b
      (replacement :: cs, next)

/-- The characters of octets, after a sequence that may be open. -/
def charsOf (s : Option Sequence) : List UInt8 → List Char
  | [] => if s.isSome then [replacement] else []
  | b :: rest =>
    let (cs, next) := takeOctet s b
    cs ++ charsOf next rest

/-- The text of octets, with replacement characters for what cannot be read. -/
def ofOctets (bytes : List UInt8) : String := String.ofList (charsOf none bytes)

end TaskWatch.Text
