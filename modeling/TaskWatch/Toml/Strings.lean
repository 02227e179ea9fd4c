import TaskWatch.Json.Lexical
import TaskWatch.Toml.Lexical

/-! Strings and keys of a TOML document.

    A string stands between quotation marks, within which escapes are read, or between apostrophes,
    within which they are not. Three marks in a row begin a string of several lines, and a line break
    right after them is left out. Such a string may end with one or two marks of its own before the
    three that close it. A reverse solidus at the end of a line leaves out the blanks and ends of
    lines that follow. -/

namespace TaskWatch.Toml

/-- The character that hexadecimal digits stand for, if there are as many as are wanted. -/
def codePoint? (count : Nat) (cs : List Char) : Option (Char × List Char) := do
  let ds := cs.take count
  if ds.length < count then none
  else
    let values ← ds.mapM Json.hexValue?
    let n := values.foldl (fun n d => n * 16 + d) 0
    if h : n.isValidChar then some (Char.ofNatAux n h, cs.drop count) else none

/-- The character of an escape, after the reverse solidus. -/
def escape? : Reader Char
  | [] => none
  | c :: rest =>
    if c = 'b' then some ('\x08', rest)
    else if c = 't' then some ('\t', rest)
    else if c = 'n' then some ('\n', rest)
    else if c = 'f' then some ('\x0c', rest)
    else if c = 'r' then some ('\x0d', rest)
    else if c = '"' || c = '\\' then some (c, rest)
    else if c = 'u' then codePoint? 4 rest
    else if c = 'U' then codePoint? 8 rest
    else none

/-- The marks that strings stand between. -/
inductive Mark where
  | quotation
  | apostrophe
  deriving DecidableEq, Repr

/-- The character of a mark. -/
def Mark.char : Mark → Char
  | .quotation => '"'
  | .apostrophe => '\x27'

/-- The characters of a string on one line up to the mark that closes it, those already read in
    reverse, where `fuel` characters at most are read. -/
def readInline (m : Mark) : Nat → List Char → List Char → Option (String × List Char)
  | 0, _, _ => none
  | _, _, [] => none
  | fuel + 1, done, c :: rest =>
    if c = m.char then some (String.ofList done.reverse, rest)
    else if c = '\\' && m = .quotation then do
      let (e, rest) ← escape? rest
      readInline m fuel (e :: done) rest
    else if isPlain c then readInline m fuel (c :: done) rest
    else none

/-- The text after blanks and ends of lines. A carriage return stands only before a line feed. -/
def skipGap : List Char → Option (List Char)
  | [] => some []
  | '\x0d' :: '\n' :: rest => skipGap rest
  | c :: rest =>
    if c = '\x0d' then none
    else if isBlank c || c = '\n' then skipGap rest
    else some (c :: rest)

/-- The characters of a string of several lines up to the three marks that close it. -/
def readLong (m : Mark) : Nat → List Char → List Char → Option (String × List Char)
  | 0, _, _ => none
  | _, _, [] => none
  | fuel + 1, done, c :: rest =>
    if c = m.char then
      let run := (c :: rest).takeWhile (· == m.char)
      let after := (c :: rest).drop run.length
      if run.length < 3 then readLong m fuel (run ++ done) after
      else if run.length ≤ 5 then
        some (String.ofList (run.drop 3 ++ done).reverse, after)
      else none
    else if c = '\\' && m = .quotation then
      match endOfLine? (skipBlanks rest) with
      | some after => (skipGap after).bind (readLong m fuel done)
      | none => do
        let (e, rest) ← escape? rest
        readLong m fuel (e :: done) rest
    else match endOfLine? (c :: rest) with
      | some after => readLong m fuel ('\n' :: done) after
      | none => if isPlain c then readLong m fuel (c :: done) rest else none

/-- A string between marks of one kind, after the first of them. -/
def readMarked (m : Mark) (cs : List Char) : Option (String × List Char) :=
  match cs with
  | a :: b :: rest =>
    if a = m.char && b = m.char then
      readLong m (rest.length + 1) [] ((endOfLine? rest).getD rest)
    else readInline m (cs.length + 1) [] cs
  | _ => readInline m (cs.length + 1) [] cs

/-- A character of a key that stands without marks. -/
def isKeyChar (c : Char) : Bool :=
  ('a' ≤ c && c ≤ 'z') || ('A' ≤ c && c ≤ 'Z') || ('0' ≤ c && c ≤ '9') || c == '-' || c == '_'

/-- One name of a key. -/
def readName : Reader String
  | [] => none
  | c :: rest =>
    if c = '"' then readInline .quotation (rest.length + 1) [] rest
    else if c = Mark.apostrophe.char then readInline .apostrophe (rest.length + 1) [] rest
    else
      let run := (c :: rest).takeWhile isKeyChar
      if run.isEmpty then none else some (String.ofList run, (c :: rest).drop run.length)

/-- The names of a key, with blanks around each, where `fuel` names at most are read. -/
def readNames : Nat → Reader (List String)
  | 0, _ => none
  | fuel + 1, cs => do
    let (name, rest) ← readName (skipBlanks cs)
    match skipBlanks rest with
    | '.' :: more =>
      let (names, rest) ← readNames fuel more
      return (name :: names, rest)
    | rest => return ([name], rest)

/-- Values are nested less deep than this, and a key has fewer names. -/
def depthLimit : Nat := 80

/-- A key. -/
def readKey : Reader Key := fun cs => do
  let (names, rest) ← readNames (cs.length + 1) cs
  if depthLimit ≤ names.length then none
  let last ← names.getLast?
  return (⟨names.dropLast, last⟩, rest)

end TaskWatch.Toml
