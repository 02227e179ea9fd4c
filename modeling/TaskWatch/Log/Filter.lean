import TaskWatch.Log.Line
import TaskWatch.Text.Alphanumeric

/-! Which lines go to the log.

    A filter is a list of directives with commas between them. A directive is a level, which holds for
    every line, or the beginning of the names of the parts that it holds for, with a level after an
    equals sign or without one, and then it admits every line. Of the directives that hold for a line
    the one with the longest beginning decides. A directive may also name a scope, and fields that a
    line or a scope has. The program opens no scopes, so one that names a scope admits no line. -/

namespace TaskWatch.Log

/-- What a directive holds for, and the least important level that it admits, if it admits any. -/
structure Directive where
  target : Option String := none
  scope : Option String := none
  /-- The names of fields, each with what it must contain. -/
  fields : List (String × Option String) := []
  level : Option Level := some .trace
  deriving DecidableEq, Repr

/-- The word for a level in a filter. -/
def levelWord : Option Level → String
  | none => "off"
  | some .error => "error"
  | some .warn => "warn"
  | some .info => "info"
  | some .debug => "debug"
  | some .trace => "trace"

/-- Every level, in the order of their numbers. -/
def allLevels : List (Option Level) :=
  [none, some .error, some .warn, some .info, some .debug, some .trace]

/-- The number that digits write, after at most one plus sign. -/
def levelNumber? (s : String) : Option Nat :=
  let ds := match s.toList with
    | '+' :: rest => rest
    | cs => cs
  if !ds.isEmpty && ds.all Text.isDigit then some (Text.number ds) else none

/-- The level that a word or a number stands for. Small and large letters are the same. -/
def levelOf? (s : String) : Option (Option Level) :=
  match (levelNumber? s).bind (fun n => allLevels[n]?) with
  | some l => some l
  | none => allLevels.find? (fun l => levelWord l == s.toLower)

/-- A character that a directive may begin with. -/
def beginsDirective (c : Char) : Bool := c == '-' || c == ':' || c == '_' || Text.isAlphanumeric c

/-- What a directive is being read for, and where that began. -/
inductive Reading where
  | nothing
  | name (start : Nat)
  | scope (start : Nat)
  | field (start : Nat)
  | fieldsEnd
  | scopeEnd
  | level (start : Nat)

/-- A field of a directive: its name, and what it must contain. -/
def fieldOf (s : String) : String × Option String :=
  match s.splitOn "=" with
  | name :: value :: _ => (name, some value)
  | _ => (s, none)

/-- Takes up a character of a directive, the one in place `i`. Names and levels are cut out of
    `text`. -/
def Directive.step (text : List Char) (d : Directive) (c : Char) (i : Nat) :
    Reading → Option (Reading × Directive)
  | .nothing =>
    if c = '[' then some (.scope (i + 1), d)
    else if beginsDirective c then some (.name i, d)
    else none
  | .name start =>
    let target := some (String.ofList ((text.take i).drop start))
    if c = '=' then some (.level (i + 1), { d with target })
    else if c = '[' then some (.scope (i + 1), { d with target })
    else some (.name start, d)
  | .scope start =>
    let scope := String.ofList ((text.take i).drop start)
    if c = ']' then some (.scopeEnd, { d with scope := some scope })
    else if c = '\x7b' then
      some (.field (i + 1), { d with scope := if scope.isEmpty then none else some scope })
    else some (.scope start, d)
  | .field start =>
    let field := String.ofList ((text.take i).drop start)
    if c = '\x7d' then
      if field.isEmpty then none else some (.fieldsEnd, { d with fields := d.fields ++ [fieldOf field] })
    else some (.field start, d)
  | .fieldsEnd => if c = ']' then some (.scopeEnd, d) else none
  | .scopeEnd => if c = '=' then some (.level (i + 1), d) else none
  | .level start => some (.level start, d)

/-- The directive that a text writes. It is read without the blanks around it, but what is cut out of
    it is counted in the whole text. -/
def Directive.ofText? (s : String) : Option Directive := do
  let text := s.toList
  let (reading, d) ← (Text.trimmed s).toList.zipIdx.foldlM
    (fun (state : Reading × Directive) (c, i) => state.2.step text c i state.1) (.nothing, {})
  match reading with
  | .name start =>
    let name := String.ofList (text.drop start)
    match levelOf? name with
    | some level => return { d with level }
    | none => return { d with target := some name }
  | .level start =>
    if text.length ≤ start then return d
    else
      let level ← levelOf? (String.ofList (text.drop start))
      return { d with level }
  | .scopeEnd => return d
  | _ => none

/-- The directive names a scope or fields. -/
def Directive.isScoped (d : Directive) : Bool := d.scope.isSome || !d.fields.isEmpty

/-- The directive can hold for a line outside any scope. -/
def Directive.holdsForLines (d : Directive) : Bool := d.scope.isNone && d.fields.all (·.2.isNone)

/-- The order of two things that may be missing, a missing one first. -/
def orderOptions {α : Type} (f : α → α → Ordering) : Option α → Option α → Ordering
  | none, none => .eq
  | none, some _ => .lt
  | some _, none => .gt
  | some a, some b => f a b

/-- The order of two lists by the first pair that differs. -/
def orderLists {α : Type} (f : α → α → Ordering) : List α → List α → Ordering
  | [], [] => .eq
  | [], _ :: _ => .lt
  | _ :: _, [] => .gt
  | a :: as, b :: bs => (f a b).then (orderLists f as bs)

/-- The order of two fields. One of which more is said comes later. -/
def orderFields (a b : String × Option String) : Ordering :=
  (compare a.2.isSome b.2.isSome).then
    ((compare a.1 b.1).then (orderOptions compare a.2 b.2))

/-- The order of two directives, the less specific first: by the length of the beginning, by whether
    there is a scope, by the number of fields, and then by the alphabet. -/
def Directive.order (a b : Directive) : Ordering :=
  let length (d : Directive) : Option Nat := d.target.map String.utf8ByteSize
  (orderOptions compare (length a) (length b)).then
    ((compare a.scope.isSome b.scope.isSome).then
      ((compare a.fields.length b.fields.length).then
        ((orderOptions compare a.target b.target).then
          ((orderOptions compare a.scope b.scope).then (orderLists orderFields a.fields b.fields)))))

/-- Adds a directive to others, of which the most specific come first. It takes the place of one for
    the same lines. -/
def addDirective (ds : List Directive) (d : Directive) : List Directive :=
  ds.filter (fun e => e.order d = .gt) ++ d :: ds.filter (fun e => e.order d = .lt)

/-- Directives, the most specific first: those that hold for lines, and those that name a scope or
    fields. -/
structure Filter where
  lines : List Directive
  scopes : List Directive := []
  deriving DecidableEq, Repr

/-- Adds a directive. -/
def Filter.add (f : Filter) (d : Directive) : Filter :=
  { lines := if d.holdsForLines then addDirective f.lines d else f.lines
    scopes := if d.isScoped then addDirective f.scopes d else f.scopes }

/-- The filter that a text writes. An empty one admits errors. -/
def Filter.ofText? (s : String) : Option Filter := do
  let directives ← ((s.splitOn ",").filter (· != "")).mapM Directive.ofText?
  if directives.isEmpty then return { lines := [{ level := some .error }] }
  else return directives.foldl Filter.add { lines := [] }

/-- The filter that is used unless another one is given. -/
def Filter.standard : Filter := { lines := [{ target := some "taskboard", level := some .info }] }

/-- The filter that the environment asks for. -/
def Filter.ofEnvironment (value : Option String) : Filter :=
  (value.bind Filter.ofText?).getD Filter.standard

/-- A field of a directive as text. -/
def fieldText (f : String × Option String) : String :=
  f.1 ++ (f.2.map ("=" ++ ·)).getD ""

/-- A directive as text. -/
def Directive.text (d : Directive) : String :=
  let fields :=
    if d.fields.isEmpty then "" else "\x7b" ++ ",".intercalate (d.fields.map fieldText) ++ "\x7d"
  let scope := if d.isScoped then "[" ++ d.scope.getD "" ++ fields ++ "]" else ""
  let sign := if d.target.isSome || d.isScoped then "=" else ""
  d.target.getD "" ++ scope ++ sign ++ levelWord d.level

/-- A filter as text. -/
def Filter.text (f : Filter) : String := ",".intercalate ((f.lines ++ f.scopes).map Directive.text)

/-- The line has a field of the name. Its message is one. -/
def Line.hasField (l : Line) (name : String) : Bool :=
  name == "message" || l.fields.any (fun (n, _) => n == name)

/-- The directive holds for a line. -/
def Directive.covers (d : Directive) (l : Line) : Bool :=
  d.target.all (fun t => l.target.name.startsWith t) && d.fields.all (fun (name, _) => l.hasField name)

/-- The filter admits a line. -/
def Filter.admits (f : Filter) (l : Line) : Bool :=
  match f.lines.find? (·.covers l) with
  | some d => d.level.any (fun most => l.level.rank ≤ most.rank)
  | none => false

end TaskWatch.Log
