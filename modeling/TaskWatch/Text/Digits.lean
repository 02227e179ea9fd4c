/-! Decimal digits: reading runs of them, and writing numbers to a fixed width. -/

namespace TaskWatch.Text

/-- One of the ten ASCII digits. -/
def isDigit (c : Char) : Bool := '0' ≤ c && c ≤ '9'

/-- What a digit counts for. -/
def digitValue (c : Char) : Nat := c.toNat - '0'.toNat

/-- The number a run of digits writes, most significant first. -/
def number (cs : List Char) : Nat :=
  cs.foldl (fun n c => n * 10 + digitValue c) 0

/-- The decimal digits of a number. -/
def digits (n : Nat) : List Char := Nat.toDigits 10 n

/-- The number in decimal, with zeros in front up to the width. -/
def padded (width n : Nat) : String :=
  let ds := digits n
  String.ofList (List.replicate (width - ds.length) '0' ++ ds)

end TaskWatch.Text
