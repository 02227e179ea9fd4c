import TaskWatch.Source.Host

/-! Addresses of things on a server.

    An address names a server, and then the path of the thing.
    What the server is asked for is that path, with its dots resolved and with every octet that cannot
    stand for itself written by its number. -/

namespace TaskWatch.Source

/-- An octet written by its number. -/
def percent (b : UInt8) : String :=
  let digit (n : Nat) : Char := Char.ofNat (if n < 10 then 48 + n else 55 + n)
  String.ofList ['%', digit (b.toNat / 16), digit (b.toNat % 16)]

/-- A character of an address, where `special` lists the printed characters that are written by
    their numbers. -/
def addressChar (special : List Char) (c : Char) : String :=
  if c.toNat ≤ 0x20 || 0x7F ≤ c.toNat || special.contains c then
    String.join (c.toString.toUTF8.toList.map percent)
  else c.toString

/-- A text as it stands in an address. -/
def addressText (special : List Char) (cs : List Char) : String :=
  String.join (cs.map (addressChar special))

/-- The printed characters that a path cannot hold as they are. -/
def pathSpecials : List Char := ['"', '#', '<', '>', '?', '\x60', '\x7b', '\x7d']

/-- The printed characters that what follows a path cannot hold as they are. -/
def querySpecials : List Char := ['"', '#', '<', '>', '\x27']

/-- The name of a drive: a letter and a colon or a bar. -/
def isDrive (piece : String) : Bool :=
  match piece.toList with
  | [c, d] => c.isAlpha && (d == ':' || d == '|')
  | _ => false

/-- A piece of a path after the pieces before it, the latest first. One dot stands for nothing and
    two take the piece before away, unless it names a drive; at the end of a path they leave an
    empty piece. -/
def addPiece (last : Bool) (before : List String) (piece : String) : List String :=
  let lower := piece.toLower
  let one := lower == "." || lower == "%2e"
  let two := [".." , ".%2e", "%2e.", "%2e%2e"].contains lower
  let kept := if two && !before.head?.any isDrive then before.drop 1 else before
  if one || two then (if last then "" :: kept else kept) else piece :: before

/-- The path with its dots resolved. -/
def resolve (path : String) : String :=
  let pieces := path.splitOn "/"
  let indexed := pieces.zipIdx
  let kept := indexed.foldl (fun before (p, i) => addPiece (i + 1 == pieces.length) before p) []
  "/" ++ "/".intercalate kept.reverse

/-- What a server is asked for, given the address after the server's name. -/
def target (address : List Char) : String :=
  let cs := address.takeWhile (· != '#')
  let path := cs.takeWhile (· != '?')
  let asked := match cs.drop path.length with
    | [] => ""
    | _ :: rest => "?" ++ addressText querySpecials rest
  resolve (addressText pathSpecials ((path.map (fun d => if d = '\\' then '/' else d)).drop 1)) ++ asked

/-- A character with which the name of a server ends. -/
def endsServer (c : Char) : Bool := c == '/' || c == '\\' || c == '?' || c == '#'

/-- The text after a beginning, if it begins with that. -/
def dropBeginning? (beginning cs : List Char) : Option (List Char) :=
  if beginning.isPrefixOf cs then some (cs.drop beginning.length) else none

/-- What an address asks for, if it is the address of a thing on a server. -/
def target? (url : String) : Option String := do
  let cs := url.toList.filter (fun c => c != '\t' && c != '\n' && c != '\x0d')
  let cs := cs.dropWhile (fun c => c.toNat ≤ 0x20)
  let rest ← dropBeginning? "http://".toList cs <|> dropBeginning? "https://".toList cs
  let name := rest.takeWhile (fun c => !endsServer c)
  if isServer name then some (target (rest.drop name.length)) else none

end TaskWatch.Source
