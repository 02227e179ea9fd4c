/-! Paths of files.

    A path is a row of names with slashes between them. Empty names and single dots count for
    nothing, except at the end: a slash there says that a folder is meant, and a dot after it that
    the folder is there already. -/

namespace TaskWatch.Files

/-- What a path ends with. -/
inductive Ending where
  | name
  | slash
  /-- A single dot, with or without a slash after it. -/
  | dot
  deriving DecidableEq, Repr

/-- A path. -/
structure Path where
  names : List String
  ending : Ending := .name
  deriving DecidableEq, Repr

namespace Path

/-- A name that counts. -/
def counts (name : String) : Bool := name != "" && name != "."

/-- The path that a text writes. -/
def ofText (s : String) : Path :=
  let pieces := s.splitOn "/"
  let tail := pieces.reverse.takeWhile (fun name => !counts name)
  { names := pieces.filter counts
    ending :=
      if tail.contains "." then .dot
      else if tail.isEmpty || s.isEmpty then .name
      else .slash }

/-- The path has no text. -/
def isBlank (p : Path) : Bool := p.names.isEmpty && p.ending = .name

/-- The last name, unless that leads upwards. -/
def name? (p : Path) : Option String :=
  p.names.getLast?.filter (· != "..")

/-- The path beside it whose last name has an ending added. -/
def withEnding (p : Path) (ending : String) : Path :=
  match p.name? with
  | some name => { names := p.names.dropLast ++ [name ++ ending] }
  | none => { names := p.names ++ [ending] }

/-- The names with slashes between them. -/
def text (names : List String) : String := "/".intercalate names

end Path

end TaskWatch.Files
