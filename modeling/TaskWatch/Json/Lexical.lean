import TaskWatch.Json.Fault

/-! Strings and blanks of the JSON grammar.

    A string that is read must be valid text: an escape for half a surrogate pair breaks the grammar
    unless its other half follows. A string that is only passed over may hold such an escape. Four
    octets must remain after the letter of a Unicode escape, or the text has ended. -/

namespace TaskWatch.Json

/-- The four characters that may stand between tokens. -/
def isSpace (c : Char) : Bool := c == ' ' || c == '\n' || c == '\t' || c == '\x0d'

/-- The text from the next token on. -/
def skipSpace (cs : List Char) : List Char := cs.dropWhile isSpace

/-- A character that a string may not hold unescaped. -/
def isControl (c : Char) : Bool := c.toNat < 0x20

/-- What a hexadecimal digit counts for. -/
def hexValue? (c : Char) : Option Nat :=
  if '0' ≤ c && c ≤ '9' then some (c.toNat - 48)
  else if 'a' ≤ c && c ≤ 'f' then some (c.toNat - 87)
  else if 'A' ≤ c && c ≤ 'F' then some (c.toNat - 55)
  else none

/-- Four hexadecimal digits. -/
def readUnit (cs : List Char) : Except Fault (Nat × List Char) :=
  if Time.octets (cs.take 4) < 4 then .error .ended
  else match cs with
    | a :: b :: c :: d :: rest =>
      match hexValue? a, hexValue? b, hexValue? c, hexValue? d with
      | some a, some b, some c, some d => .ok (((a * 16 + b) * 16 + c) * 16 + d, rest)
      | _, _, _, _ => .error .malformed
    | _ => .error .malformed

theorem readUnit_shorter {cs rest : List Char} {n : Nat} (h : readUnit cs = .ok (n, rest)) :
    rest.length < cs.length := by
  unfold readUnit at h
  split at h
  · cases h
  · split at h
    · split at h
      · cases h; simp only [List.length_cons]; omega
      · cases h
    · cases h

/-- What the letter after a reverse solidus stands for. -/
def escaped? (c : Char) : Option Char :=
  if c = '"' || c = '\\' || c = '/' then some c
  else if c = 'b' then some '\x08'
  else if c = 'f' then some '\x0c'
  else if c = 'n' then some '\n'
  else if c = 'r' then some '\x0d'
  else if c = 't' then some '\t'
  else none

/-- A number that stands for the first half of a surrogate pair. -/
def isHighHalf (n : Nat) : Bool := 0xD800 ≤ n && n ≤ 0xDBFF

/-- A number that stands for the second half of a surrogate pair. -/
def isLowHalf (n : Nat) : Bool := 0xDC00 ≤ n && n ≤ 0xDFFF

/-- The second half of a surrogate pair, after the first. -/
def readLowHalf (high : Nat) (cs : List Char) : Except Fault (Char × List Char) :=
  match cs with
  | [] => .error .ended
  | '\\' :: [] => .error .ended
  | '\\' :: 'u' :: more =>
    match readUnit more with
    | .error e => .error e
    | .ok (low, rest) =>
      if isLowHalf low then
        .ok (Char.ofNat (0x10000 + (high - 0xD800) * 0x400 + (low - 0xDC00)), rest)
      else .error .malformed
  | _ => .error .malformed

/-- The character of a Unicode escape, after its letter. -/
def readEscapedUnit (cs : List Char) : Except Fault (Char × List Char) :=
  match readUnit cs with
  | .error e => .error e
  | .ok (n, rest) =>
    if isLowHalf n then .error .malformed
    else if isHighHalf n then readLowHalf n rest
    else .ok (Char.ofNat n, rest)

theorem readLowHalf_shorter {high : Nat} {cs rest : List Char} {c : Char}
    (h : readLowHalf high cs = .ok (c, rest)) : rest.length < cs.length := by
  unfold readLowHalf at h
  split at h
  · cases h
  · cases h
  · split at h
    · cases h
    · rename_i hu
      have := readUnit_shorter hu
      split at h
      · simp only [Except.ok.injEq, Prod.mk.injEq] at h
        rw [← h.2]
        simp only [List.length_cons]; omega
      · cases h
  · cases h

theorem readEscapedUnit_shorter {cs rest : List Char} {c : Char}
    (h : readEscapedUnit cs = .ok (c, rest)) : rest.length < cs.length := by
  unfold readEscapedUnit at h
  cases hu : readUnit cs with
  | error e => simp [hu] at h
  | ok p =>
    obtain ⟨n, rest'⟩ := p
    have shorter := readUnit_shorter hu
    cases low : isLowHalf n with
    | true => simp [hu, low] at h
    | false =>
      cases high : isHighHalf n with
      | true =>
        simp only [hu, low, high, Bool.false_eq_true, if_false, if_true] at h
        have := readLowHalf_shorter h
        omega
      | false =>
        simp only [hu, low, high, Bool.false_eq_true, if_false, Except.ok.injEq,
          Prod.mk.injEq] at h
        rw [← h.2]
        exact shorter

/-- The characters of a string up to its closing quotation mark, those already read in reverse. -/
def readChars (read : List Char) (cs : List Char) : Except Fault (String × List Char) :=
  match cs with
  | [] => .error .ended
  | c :: rest =>
    if c = '"' then .ok (String.ofList read.reverse, rest)
    else if c = '\\' then
      match rest with
      | [] => .error .ended
      | e :: more =>
        if e = 'u' then
          match h : readEscapedUnit more with
          | .error e => .error e
          | .ok (c, rest) =>
            have := readEscapedUnit_shorter h
            readChars (c :: read) rest
        else match escaped? e with
          | none => .error .malformed
          | some c => readChars (c :: read) more
    else if isControl c then .error .malformed
    else readChars (c :: read) rest
  termination_by cs.length
  decreasing_by all_goals simp_wf <;> omega

/-- Passes over the characters of a string and its closing quotation mark. -/
def skipChars (cs : List Char) : Except Fault (List Char) :=
  match cs with
  | [] => .error .ended
  | c :: rest =>
    if c = '"' then .ok rest
    else if c = '\\' then
      match rest with
      | [] => .error .ended
      | e :: more =>
        if e = 'u' then
          match h : readUnit more with
          | .error e => .error e
          | .ok (_, rest) =>
            have := readUnit_shorter h
            skipChars rest
        else if (escaped? e).isSome then skipChars more
        else .error .malformed
    else if isControl c then .error .malformed
    else skipChars rest
  termination_by cs.length
  decreasing_by all_goals simp_wf <;> omega

/-- Passes over the letters of a fixed word. -/
def skipWord (word : List Char) (cs : List Char) : Except Fault (List Char) :=
  match word, cs with
  | [], rest => .ok rest
  | _ :: _, [] => .error .ended
  | w :: word, c :: rest => if c = w then skipWord word rest else .error .malformed

end TaskWatch.Json
