/-! Values of a TOML document, and the tables they are put into.

    A table may be given under a heading, may be implied by the heading of a table within it, may
    come from a dotted key, or may be written out in braces. How it came about decides who may add to
    it: a table in braces is closed, and one under a heading takes dotted keys only where it stands. -/

namespace TaskWatch.Toml

/-- How a table came about. -/
inductive Origin where
  | heading
  | implied
  | dotted
  | braces
  deriving DecidableEq, Repr

/-- A value. -/
inductive Value where
  | text (s : String)
  | integer (n : Int)
  | float
  /-- A date, a time, or both. -/
  | moment
  | bool (b : Bool)
  | list (elements : List Value)
  | table (origin : Origin) (entries : List (String × Value))
  /-- Tables that were given one by one, each under its own heading. -/
  | tables (rows : List (List (String × Value)))

/-- The entries of a table. -/
abbrev Entries := List (String × Value)

/-- A key with its dots: the names before the last one, and the last one. -/
structure Key where
  way : List String
  last : String

/-- Sets the value of a name that is there, or adds it. -/
def setEntry (name : String) (v : Value) : Entries → Entries
  | [] => [(name, v)]
  | (n, w) :: rest => if n = name then (n, v) :: rest else (n, w) :: setEntry name v rest

/-- Changes the table that names lead to, and makes the tables that are missing on the way. Dotted
    keys do not lead into a table under a heading, and nothing leads into a table in braces. -/
def update (dotted : Bool) (f : Origin → Entries → Option Entries) :
    List String → Origin → Entries → Option Entries
  | [], origin, es => f origin es
  | name :: way, _, es => do
    let next : Value ← match es.lookup name with
      | none =>
        let origin := if dotted then .dotted else .implied
        (update dotted f way origin []).map (Value.table origin)
      | some (.table origin inner) =>
        if origin = .braces || (dotted && origin = .heading) then none
        else (update dotted f way origin inner).map (Value.table origin)
      | some (.tables rows) =>
        match rows.getLast? with
        | some last => (update dotted f way .heading last).map (fun t => .tables (rows.dropLast ++ [t]))
        | none => none
      | some _ => none
    return setEntry name next es

/-- Adds the value of a key to a table. No key is given twice, and a dotted key adds only to tables
    that come from dotted keys. -/
def addValue (k : Key) (v : Value) (origin : Origin) (es : Entries) : Option Entries :=
  update true (fun origin es =>
    if (origin = .dotted) = k.way.isEmpty then none
    else if (es.lookup k.last).isSome then none
    else some (es ++ [(k.last, v)])) k.way origin es

/-- Opens the table of a heading, which may be implied so far, but not given. -/
def openTable (k : Key) (top : Entries) : Option Entries :=
  update false (fun _ es =>
    match es.lookup k.last with
    | none => some (es ++ [(k.last, .table .heading [])])
    | some (.table .implied inner) => some (setEntry k.last (.table .heading inner) es)
    | some _ => none) k.way .heading top

/-- Opens one more of the tables that are given one by one. -/
def openRow (k : Key) (top : Entries) : Option Entries :=
  update false (fun _ es =>
    match es.lookup k.last with
    | none => some (es ++ [(k.last, .tables [[]])])
    | some (.tables rows) => some (setEntry k.last (.tables (rows ++ [[]])) es)
    | some _ => none) k.way .heading top

end TaskWatch.Toml
