import TaskWatch.Files.Path

/-! A tree of files and folders, and what can go wrong with one.

    A way to a file consists of folders that are there. Two dots lead to the folder above, and from
    the top to the top. A name has at most 255 octets and a way less than 4096, and neither holds
    the character NUL. -/

namespace TaskWatch.Files

/-- What can go wrong with a file. -/
inductive Fault where
  | missing
  /-- A folder is where a file was wanted. -/
  | isFolder
  /-- Something on the way is no folder. -/
  | notFolder
  /-- Something else is where a folder was wanted. -/
  | taken
  /-- The content is no text. -/
  | notText
  /-- A name, or the way as a whole, is too long. -/
  | tooLong
  /-- A name holds a NUL. -/
  | unnameable
  /-- A folder that is in use was to be replaced. -/
  | busy
  /-- Something else, in the words of the system. -/
  | other (text : String)
  deriving DecidableEq, Repr

/-- The name of what went wrong. -/
def Fault.name : Fault → String
  | .missing => "NotFound"
  | .isFolder => "IsADirectory"
  | .notFolder => "NotADirectory"
  | .taken => "AlreadyExists"
  | .notText => "InvalidData"
  | .tooLong => "InvalidFilename"
  | .unnameable => "InvalidInput"
  | .busy => "ResourceBusy"
  | .other _ => "Other"

/-- The wording of what went wrong. -/
def Fault.text : Fault → String
  | .missing => "No such file or directory (os error 2)"
  | .isFolder => "Is a directory (os error 21)"
  | .notFolder => "Not a directory (os error 20)"
  | .taken => "File exists (os error 17)"
  | .notText => "stream did not contain valid UTF-8"
  | .tooLong => "File name too long (os error 36)"
  | .unnameable => "file name contained an unexpected NUL byte"
  | .busy => "Device or resource busy (os error 16)"
  | .other text => text

/-- What stands in a place of the tree. -/
inductive Item where
  | file (content : ByteArray)
  | folder

/-- A tree of files and folders, each place given by the names that lead to it. The top is always
    there. -/
structure Disk where
  items : List (List String × Item) := []

namespace Disk

/-- What stands in a place. -/
def item? (d : Disk) (place : List String) : Option Item :=
  if place.isEmpty then some .folder else d.items.lookup place

/-- Puts something in a place. -/
def put (d : Disk) (place : List String) (i : Item) : Disk :=
  { items := d.items.filter (fun (p, _) => p != place) ++ [(place, i)] }

/-- Takes away what stands in a place. -/
def remove (d : Disk) (place : List String) : Disk :=
  { items := d.items.filter (fun (p, _) => p != place) }

/-- Steps from a folder to the place that a name leads to. -/
def step (place : List String) (name : String) : List String :=
  if name = ".." then place.dropLast else place ++ [name]

/-- The names can be those of a way. -/
def checkWay (names : List String) : Except Fault Unit :=
  if names.any (fun name => name.toList.contains '\x00') then .error .unnameable
  else if 4096 ≤ (Path.text names).utf8ByteSize then .error .tooLong
  else .ok ()

/-- Steps to the place that a name leads to, which need not be there. -/
def reach (place : List String) (name : String) : Except Fault (List String) :=
  if 255 < name.utf8ByteSize then .error .tooLong else .ok (step place name)

/-- Steps on into a folder. -/
def enter (d : Disk) (place : List String) (name : String) : Except Fault (List String) := do
  let next ← reach place name
  match d.item? next with
  | some .folder => return next
  | some (.file _) => throw .notFolder
  | none => throw .missing

/-- The place that names lead to, which need not be there itself. -/
def placeOf (d : Disk) (names : List String) : Except Fault (List String) := do
  checkWay names
  match names.getLast? with
  | none => return []
  | some last =>
    let above ← names.dropLast.foldlM d.enter []
    reach above last

/-- The place that a path leads to, which need not be there itself. -/
def place (d : Disk) (p : Path) : Except Fault (List String) :=
  if p.isBlank then .error .missing else d.placeOf p.names

/-- The content of a file. -/
def readBytes (d : Disk) (p : Path) : Except Fault ByteArray := do
  match d.item? (← d.place p) with
  | some (.file content) => if p.ending = .name then return content else throw .notFolder
  | some .folder => throw .isFolder
  | none => throw .missing

/-- The content of a file as text. -/
def readText (d : Disk) (p : Path) : Except Fault String := do
  match String.fromUTF8? (← d.readBytes p) with
  | some s => return s
  | none => throw .notText

/-- The place where a file can be written, and what it holds so far. After a slash none can be, and
    after a dot there would have to be a folder. -/
def placeToWrite (d : Disk) (p : Path) : Except Fault (List String × ByteArray) := do
  let place ← d.place p
  match p.ending, d.item? place with
  | .slash, _ => throw .isFolder
  | _, some .folder => throw .isFolder
  | .dot, some (.file _) => throw .notFolder
  | .dot, none => throw .missing
  | .name, some (.file content) => return (place, content)
  | .name, none => return (place, .empty)

/-- Writes a file, in place of what it held before. -/
def write (d : Disk) (p : Path) (content : ByteArray) : Except Fault Disk := do
  let (place, _) ← d.placeToWrite p
  return d.put place (.file content)

/-- Adds to the end of a file, or begins it. -/
def append (d : Disk) (p : Path) (content : ByteArray) : Except Fault Disk := do
  let (place, before) ← d.placeToWrite p
  return d.put place (.file (before ++ content))

/-- The place that a file can be moved to. A folder that is told by dots cannot be replaced, and
    any other one not by a file. -/
def placeToMove (d : Disk) (p : Path) : Except Fault (List String) := do
  let place ← d.place p
  match p.ending, d.item? place with
  | .dot, some (.file _) => throw .notFolder
  | .dot, none => throw .missing
  | .dot, some .folder => throw .busy
  | .slash, _ => throw (if p.name?.isNone then .busy else .notFolder)
  | .name, some .folder => throw (if p.name?.isNone then .busy else .isFolder)
  | .name, _ => return place

/-- Moves a file to another place. -/
def rename (d : Disk) (source target : Path) : Except Fault Disk := do
  let content ← d.readBytes source
  let place ← d.placeToMove target
  return (d.remove (← d.place source)).put place (.file content)

/-- Makes a folder in one that is there, unless it is there itself. -/
def makeFolder (d : Disk) (names : List String) : Except Fault Disk := do
  let place ← d.placeOf names
  match d.item? place with
  | some .folder => return d
  | some (.file _) => throw .taken
  | none => return d.put place .folder

/-- Does something to the tree, or leaves it as it is where something is missing for that. -/
def unlessMissing (f : Disk → Except Fault Disk) (d : Disk) : Except Fault Disk :=
  match f d with
  | .error .missing => .ok d
  | outcome => outcome

/-- What is to be done to make all folders of a way. The last one is made at once if it can be; if one
    on the way is missing, they are made one after another. -/
def folderSteps (names : List String) : List (Disk → Except Fault Disk) :=
  unlessMissing (·.makeFolder names) ::
    (List.range names.length).map (fun i d => d.makeFolder (names.take (i + 1)))

/-- What is to be done to make the folder that a path lies in. -/
def parentSteps (p : Path) : List (Disk → Except Fault Disk) := folderSteps p.names.dropLast

/-- The folder that a path with a dot at its end leads to is there. -/
def checkDot (p : Path) (d : Disk) : Except Fault Disk := do
  match d.item? (← d.place p) with
  | some .folder => return d
  | some (.file _) => throw .notFolder
  | none => throw .missing

/-- Does several things to the tree, one after another, up to the first that fails. What was done
    before it stays done. -/
def attempt (d : Disk) : List (Disk → Except Fault Disk) → Disk × Except Fault Unit
  | [] => (d, .ok ())
  | f :: rest =>
    match f d with
    | .ok d => d.attempt rest
    | .error fault => (d, .error fault)

/-- Makes a folder, with all folders on the way to it. One that is told by a dot is never made itself. -/
def makeFolders (d : Disk) (p : Path) : Disk × Except Fault Unit :=
  d.attempt (if p.ending = .dot then unlessMissing (checkDot p) :: parentSteps p ++ [checkDot p]
    else folderSteps p.names)

/-- Every place, a slash after each folder, in order of the text. -/
def listing (d : Disk) : List String :=
  (d.items.map (fun (place, i) => match i with
    | .file _ => Path.text place
    | .folder => Path.text place ++ "/")).mergeSort (fun a b => a ≤ b)

end Disk

end TaskWatch.Files
