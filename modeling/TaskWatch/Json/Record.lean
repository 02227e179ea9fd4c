import TaskWatch.Json.Skip

/-! Reading values and records.

    A text is read from left to right and the first problem wins: a value that does not fit is
    reported even where the text breaks off after it. A record is a JSON object with its members in
    any order, or a list of the values of its members in their declared order. Members it does not
    know are passed over. -/

namespace TaskWatch.Json

/-- Reports the value at the front of the text as one of a wrong form. -/
def refuse {α : Type} (wanted : String) (cs : List Char) : Except Fault (α × List Char) :=
  let report (found : Found) : Except Fault (α × List Char) := .error (.mismatch (.wrongType found wanted))
  match cs with
  | [] => .error .ended
  | c :: rest =>
    if c = 'n' then do
      let _ ← skipWord ['u', 'l', 'l'] rest
      report .null
    else if c = 't' then do
      let _ ← skipWord ['r', 'u', 'e'] rest
      report (.bool true)
    else if c = 'f' then do
      let _ ← skipWord ['a', 'l', 's', 'e'] rest
      report (.bool false)
    else if c = '-' then do
      let (n, _) ← readNumber true rest
      report n.found
    else if Text.isDigit c then do
      let (n, _) ← readNumber false cs
      report n.found
    else if c = '"' then do
      let (s, _) ← readChars [] rest
      report (.text s)
    else if c = '[' then report .list
    else if c = '\x7b' then report .record
    else .error .malformed

/-- A string, where `wanted` says what the string is for. -/
def readText (wanted : String) : Reader String := fun cs =>
  match skipSpace cs with
  | '"' :: rest => readChars [] rest
  | other => refuse wanted other

/-- An integer from 0 to `most`, where `wanted` names the range. -/
def readNatural (most : Nat) (wanted : String) : Reader Nat := fun cs =>
  let cs := skipSpace cs
  let judge (n : Number) (rest : List Char) : Except Fault (Nat × List Char) :=
    match n with
    | .natural n =>
      if n ≤ most then .ok (n, rest) else .error (.mismatch (.outOfRange n wanted))
    | .negative n => .error (.mismatch (.outOfRange (-(n : Int)) wanted))
    | .float _ _ => .error (.mismatch (.wrongType n.found wanted))
  match cs with
  | '-' :: rest => do
    let (n, rest) ← readNumber true rest
    judge n rest
  | c :: _ =>
    if Text.isDigit c then do
      let (n, rest) ← readNumber false cs
      judge n rest
    else refuse wanted cs
  | [] => .error .ended

/-- The word of one of several choices, given as a string. -/
def readChoice {κ : Type} (choices : List (String × κ)) (cs : List Char) : Except Fault (κ × List Char) := do
  let (word, rest) ← readText "variant identifier" cs
  match choices.lookup word with
  | some k => return (k, rest)
  | none => throw (.mismatch (.unknownVariant word (choices.map Prod.fst)))

/-- A colon. -/
def readColon (cs : List Char) : Except Fault (List Char) :=
  match skipSpace cs with
  | [] => .error .ended
  | c :: rest => if c = ':' then .ok rest else .error .malformed

/-- One of several choices: its word, or a record whose only member is named by the word and
    holds null. -/
def readVariant {κ : Type} (choices : List (String × κ)) : Reader κ := fun cs =>
  match skipSpace cs with
  | [] => .error .ended
  | c :: rest =>
    if c = '"' then readChoice choices (c :: rest)
    else if c = '\x7b' then do
      let (k, rest) ← readChoice choices rest
      let rest ← readColon rest
      let rest ← match skipSpace rest with
        | 'n' :: more => skipWord ['u', 'l', 'l'] more
        | other => (refuse (α := Unit) "unit" other).map Prod.snd
      match skipSpace rest with
      | [] => throw .ended
      | d :: more => if d = '\x7d' then return (k, more) else throw .malformed
    else .error .malformed

/-- A value or null. -/
def readOptional {α : Type} (read : Reader α) : Reader (Option α) := fun cs =>
  match skipSpace cs with
  | 'n' :: rest => do
    let rest ← skipWord ['u', 'l', 'l'] rest
    return (none, rest)
  | other => do
    let (a, rest) ← read other
    return (some a, rest)

/-- Whether another element of a list follows; if so the text goes on with it, and if not with the
    closing bracket. -/
def moreElements (first : Bool) (cs : List Char) : Except Fault (Bool × List Char) :=
  match skipSpace cs with
  | [] => .error .ended
  | c :: rest =>
    if c = ']' then .ok (false, c :: rest)
    else if first then .ok (true, c :: rest)
    else if c = ',' then
      match skipSpace rest with
      | [] => .error .ended
      | d :: more => if d = ']' then .error .malformed else .ok (true, d :: more)
    else .error .malformed

/-- The closing bracket of a list of which enough was read. -/
def closeList (cs : List Char) : Except Fault (List Char) :=
  match skipSpace cs with
  | [] => .error .ended
  | c :: rest => if c = ']' then .ok rest else .error .malformed

/-- The elements of a list up to its closing bracket, those already read in reverse. -/
def readElements {α : Type} (read : Reader α) :
    Nat → List α → List Char → Except Fault (List α × List Char)
  | 0, _, _ => .error .malformed
  | fuel + 1, done, cs => do
    let (more, rest) ← moreElements done.isEmpty cs
    if more then
      let (a, rest) ← read rest
      readElements read fuel (a :: done) rest
    else
      let rest ← closeList rest
      return (done.reverse, rest)

/-- A list of values. -/
def readList {α : Type} (read : Reader α) : Reader (List α) := fun cs =>
  match skipSpace cs with
  | '[' :: rest => readElements read (rest.length + 1) [] rest
  | other => refuse "a sequence" other

/-- A member of a record, where `P` is what is known of a record partly read. -/
structure Member (P : Type) where
  name : String
  isSet : P → Bool
  read : P → Reader P
  /-- A list may end before this member. -/
  optional : Bool := false

/-- The form of a record: its title, its members in declared order, what is known before anything
    was read, and the record itself once all is read, or the name of the first member missing. -/
structure Shape (P α : Type) where
  title : String
  members : List (Member P)
  empty : P
  build : P → Except String α

/-- Whether another member of an object follows; if so the text goes on with its name. -/
def moreMembers (first : Bool) (cs : List Char) : Except Fault (Bool × List Char) :=
  match skipSpace cs with
  | [] => .error .ended
  | c :: rest =>
    if c = '\x7d' then .ok (false, c :: rest)
    else if first then (if c = '"' then .ok (true, c :: rest) else .error .malformed)
    else if c = ',' then
      match skipSpace rest with
      | [] => .error .ended
      | d :: more => if d = '"' then .ok (true, d :: more) else .error .malformed
    else .error .malformed

/-- The value of a member, after its name. -/
def readMember {P : Type} (members : List (Member P)) (known : P) (name : String) : Reader P :=
  fun cs =>
    match members.find? (fun m => m.name == name) with
    | some m =>
      if m.isSet known then .error (.mismatch (.duplicateField name))
      else do
        let rest ← readColon cs
        m.read known rest
    | none => do
      let rest ← readColon cs
      let rest ← skip rest
      return (known, rest)

/-- The members of an object up to its closing brace. -/
def readMembers {P : Type} (members : List (Member P)) :
    Nat → Bool → P → List Char → Except Fault (P × List Char)
  | 0, _, _, _ => .error .malformed
  | fuel + 1, first, known, cs => do
    let (more, rest) ← moreMembers first cs
    if more then
      let (name, rest) ← readText "field identifier" rest
      let (known, rest) ← readMember members known name rest
      readMembers members fuel false known rest
    else return (known, rest.drop 1)

/-- The members of a record given as a list, from number `count` on. -/
def readPositions {P : Type} (title : String) (total : Nat) :
    List (Member P) → Nat → P → List Char → Except Fault (P × List Char)
  | [], _, known, cs => .ok (known, cs)
  | m :: later, count, known, cs => do
    let (more, rest) ← moreElements (count == 0) cs
    if more then
      let (known, rest) ← m.read known rest
      readPositions title total later (count + 1) known rest
    else if m.optional then readPositions title total later (count + 1) known rest
    else
      let wanted := "struct " ++ title ++ " with " ++ toString total
        ++ (if total == 1 then " element" else " elements")
      throw (.mismatch (.tooFew count wanted))

/-- The record, once its members are read. -/
def Shape.finish {P α : Type} (shape : Shape P α) (known : P) (rest : List Char) : Except Fault (α × List Char) :=
  match shape.build known with
  | .ok a => .ok (a, rest)
  | .error name => .error (.mismatch (.missingField name))

/-- A record of the given form. -/
def readRecord {P α : Type} (shape : Shape P α) : Reader α := fun cs =>
  match skipSpace cs with
  | [] => .error .ended
  | c :: rest =>
    if c = '\x7b' then do
      let (known, rest) ← readMembers shape.members (rest.length + 1) true shape.empty rest
      shape.finish known rest
    else if c = '[' then do
      let (known, rest) ←
        readPositions shape.title shape.members.length shape.members 0 shape.empty rest
      let (a, rest) ← shape.finish known rest
      let rest ← closeList rest
      return (a, rest)
    else refuse ("struct " ++ shape.title) (c :: rest)

/-- The value of a whole text. -/
def decode {α : Type} (read : Reader α) (s : String) : Except Fault α := do
  let (a, rest) ← read s.toList
  if (skipSpace rest).isEmpty then return a else throw .malformed

end TaskWatch.Json
