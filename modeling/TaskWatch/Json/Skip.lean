import TaskWatch.Json.Number

/-! Passing over a JSON value of any form.

    The grammar is checked on the way. `skipValue` passes over a value that nobody reads: its depth
    is not limited and its strings may hold halves of surrogate pairs. `checkValue` passes over a
    value as if it were read in full: its strings must be valid text, its numbers must be finite,
    and lists and records may be nested 127 deep.

    Both take an allowance of steps. Every token costs two at most, so that `skip` and `check` can
    grant enough for any text. -/

namespace TaskWatch.Json

mutual

/-- Passes over a value. -/
def skipValue : Nat → List Char → Except Fault (List Char)
  | 0, _ => .error .malformed
  | fuel + 1, cs =>
    match skipSpace cs with
    | [] => .error .ended
    | c :: rest =>
      if c = 'n' then skipWord ['u', 'l', 'l'] rest
      else if c = 't' then skipWord ['r', 'u', 'e'] rest
      else if c = 'f' then skipWord ['a', 'l', 's', 'e'] rest
      else if c = '-' then skipNumber rest
      else if Text.isDigit c then skipNumber (c :: rest)
      else if c = '"' then skipChars rest
      else if c = '[' then
        match skipSpace rest with
        | [] => .error .ended
        | d :: more => if d = ']' then .ok more else skipElements fuel (d :: more)
      else if c = '\x7b' then
        match skipSpace rest with
        | [] => .error .ended
        | d :: more => if d = '\x7d' then .ok more else skipMembers fuel (d :: more)
      else .error .malformed

/-- Passes over the elements of a list, from the first to the closing bracket. -/
def skipElements : Nat → List Char → Except Fault (List Char)
  | 0, _ => .error .malformed
  | fuel + 1, cs =>
    match skipValue fuel cs with
    | .error e => .error e
    | .ok rest =>
      match skipSpace rest with
      | [] => .error .ended
      | c :: more =>
        if c = ',' then skipElements fuel more
        else if c = ']' then .ok more
        else .error .malformed

/-- Passes over the members of a record, from the first to the closing brace. -/
def skipMembers : Nat → List Char → Except Fault (List Char)
  | 0, _ => .error .malformed
  | fuel + 1, cs =>
    match skipSpace cs with
    | [] => .error .ended
    | q :: name =>
      if q = '"' then
        match skipChars name with
        | .error e => .error e
        | .ok rest =>
          match skipSpace rest with
          | [] => .error .ended
          | colon :: value =>
            if colon = ':' then
              match skipValue fuel value with
              | .error e => .error e
              | .ok rest =>
                match skipSpace rest with
                | [] => .error .ended
                | c :: more =>
                  if c = ',' then skipMembers fuel more
                  else if c = '\x7d' then .ok more
                  else .error .malformed
            else .error .malformed
      else .error .malformed

end

mutual

/-- Passes over a value, checking it as if it were read; `depth` more levels may open. -/
def checkValue : Nat → Nat → List Char → Except Fault (List Char)
  | 0, _, _ => .error .malformed
  | fuel + 1, depth, cs =>
    match skipSpace cs with
    | [] => .error .ended
    | c :: rest =>
      if c = 'n' then skipWord ['u', 'l', 'l'] rest
      else if c = 't' then skipWord ['r', 'u', 'e'] rest
      else if c = 'f' then skipWord ['a', 'l', 's', 'e'] rest
      else if c = '-' then (readNumber true rest).map Prod.snd
      else if Text.isDigit c then (readNumber false (c :: rest)).map Prod.snd
      else if c = '"' then (readChars [] rest).map Prod.snd
      else if c = '[' then
        match depth with
        | 0 => .error .malformed
        | depth + 1 =>
          match skipSpace rest with
          | [] => .error .ended
          | d :: more => if d = ']' then .ok more else checkElements fuel depth (d :: more)
      else if c = '\x7b' then
        match depth with
        | 0 => .error .malformed
        | depth + 1 =>
          match skipSpace rest with
          | [] => .error .ended
          | d :: more => if d = '\x7d' then .ok more else checkMembers fuel depth (d :: more)
      else .error .malformed

/-- Passes over the elements of a list, checking them. -/
def checkElements : Nat → Nat → List Char → Except Fault (List Char)
  | 0, _, _ => .error .malformed
  | fuel + 1, depth, cs =>
    match checkValue fuel depth cs with
    | .error e => .error e
    | .ok rest =>
      match skipSpace rest with
      | [] => .error .ended
      | c :: more =>
        if c = ',' then checkElements fuel depth more
        else if c = ']' then .ok more
        else .error .malformed

/-- Passes over the members of a record, checking them. -/
def checkMembers : Nat → Nat → List Char → Except Fault (List Char)
  | 0, _, _ => .error .malformed
  | fuel + 1, depth, cs =>
    match skipSpace cs with
    | [] => .error .ended
    | q :: name =>
      if q = '"' then
        match readChars [] name with
        | .error e => .error e
        | .ok (_, rest) =>
          match skipSpace rest with
          | [] => .error .ended
          | colon :: value =>
            if colon = ':' then
              match checkValue fuel depth value with
              | .error e => .error e
              | .ok rest =>
                match skipSpace rest with
                | [] => .error .ended
                | c :: more =>
                  if c = ',' then checkMembers fuel depth more
                  else if c = '\x7d' then .ok more
                  else .error .malformed
            else .error .malformed
      else .error .malformed

end

/-- Passes over the value at the front of a text. -/
def skip (cs : List Char) : Except Fault (List Char) := skipValue (2 * cs.length + 2) cs

/-- The levels of lists and records that may be nested in a value that is read. -/
def deepest : Nat := 127

/-- Passes over the value at the front of a text, checking it. -/
def check (cs : List Char) : Except Fault (List Char) := checkValue (2 * cs.length + 2) deepest cs

end TaskWatch.Json
