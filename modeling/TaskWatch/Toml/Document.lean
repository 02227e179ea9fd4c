import TaskWatch.Toml.Moment
import TaskWatch.Toml.Number
import TaskWatch.Toml.Strings

/-! Reading a TOML document.

    A document is a run of lines: blank ones, headings, and values with their keys, which belong to
    the table of the heading above them. -/

namespace TaskWatch.Toml

/-- The text after the word, if it begins with it. -/
def dropWord? : List Char → List Char → Option (List Char)
  | [], cs => some cs
  | w :: word, c :: cs => if w = c then dropWord? word cs else none
  | _ :: _, [] => none

/-- The equals sign between a key and its value, and the blanks after it. -/
def skipEquals : List Char → Option (List Char)
  | '=' :: rest => some (skipBlanks rest)
  | _ => none

mutual

/-- A value, in which lists and tables in braces may be nested so deep. -/
def readValue : Nat → Nat → Reader Value
  | 0, _, _ => none
  | _, _, [] => none
  | fuel + 1, depth, c :: rest =>
    if c = '"' then (readMarked .quotation rest).map (fun (s, rest) => (.text s, rest))
    else if c = Mark.apostrophe.char then
      (readMarked .apostrophe rest).map (fun (s, rest) => (.text s, rest))
    else if c = 't' then (dropWord? ['r', 'u', 'e'] rest).map (fun rest => (.bool true, rest))
    else if c = 'f' then
      (dropWord? ['a', 'l', 's', 'e'] rest).map (fun rest => (.bool false, rest))
    else if c = '[' then
      if depth = 0 then none
      else (readElements fuel (depth - 1) [] rest).map (fun (vs, rest) => (.list vs, rest))
    else if c = '\x7b' then
      if depth = 0 then none
      else
        match skipBlanks rest with
        | '\x7d' :: more => some (.table .braces [], more)
        | inner =>
          (readEntries fuel (depth - 1) [] inner).map (fun (es, rest) => (.table .braces es, rest))
    else readMoment (c :: rest) <|> readNumber (c :: rest)

/-- The elements of a list up to its closing bracket, those already read in reverse. -/
def readElements : Nat → Nat → List Value → Reader (List Value)
  | 0, _, _, _ => none
  | fuel + 1, depth, done, cs => do
    match ← skipToToken cs with
    | ']' :: rest => return (done.reverse, rest)
    | inner =>
      let (v, rest) ← readValue fuel depth inner
      match ← skipToToken rest with
      | ',' :: rest => readElements fuel depth (v :: done) rest
      | ']' :: rest => return ((v :: done).reverse, rest)
      | _ => none

/-- The entries of a table in braces up to its closing brace. -/
def readEntries : Nat → Nat → Entries → Reader Entries
  | 0, _, _, _ => none
  | fuel + 1, depth, es, cs => do
    let (k, rest) ← readKey cs
    let (v, rest) ← readValue fuel depth (← skipEquals rest)
    let es ← addValue k v .braces es
    match skipBlanks rest with
    | ',' :: rest => readEntries fuel depth es rest
    | '\x7d' :: rest => return (es, rest)
    | _ => none

end

/-- A document partly read: its tables, and the names that lead to the one that takes values. -/
structure Draft where
  top : Entries := []
  way : List String := []

/-- Takes up a key and its value. -/
def Draft.take (d : Draft) (k : Key) (v : Value) : Option Draft := do
  let top ← update false (addValue k v) d.way .heading d.top
  return { d with top }

/-- A heading, after its first bracket. -/
def readHeading (d : Draft) : Reader Draft := fun cs => do
  match cs with
  | '[' :: rest =>
    let (k, rest) ← readKey rest
    let top ← openRow k d.top
    match rest with
    | ']' :: ']' :: rest => return (⟨top, k.way ++ [k.last]⟩, rest)
    | _ => none
  | _ =>
    let (k, rest) ← readKey cs
    let top ← openTable k d.top
    match rest with
    | ']' :: rest => return (⟨top, k.way ++ [k.last]⟩, rest)
    | _ => none

/-- A key and its value. -/
def readPair (d : Draft) : Reader Draft := fun cs => do
  let (k, rest) ← readKey cs
  let (v, rest) ← readValue (rest.length + 1) (depthLimit - 1) (← skipEquals rest)
  let d ← d.take k v
  return (d, rest)

/-- The lines of a document, where `fuel` lines at most are read. -/
def readDocument : Nat → Draft → List Char → Option Entries
  | 0, _, _ => none
  | fuel + 1, d, cs => do
    match ← skipToToken cs with
    | [] => return d.top
    | '[' :: rest =>
      let (d, rest) ← readHeading d rest
      readDocument fuel d (← finishLine rest)
    | inner =>
      let (d, rest) ← readPair d inner
      readDocument fuel d (← finishLine rest)

/-- The tables of a document. A byte order mark in front is left out. -/
def read (s : String) : Option Entries :=
  let cs := match s.toList with
    | '\ufeff' :: rest => rest
    | cs => cs
  readDocument (cs.length + 1) {} cs

end TaskWatch.Toml
