import TaskWatch.Text.Quoted

/-! Keys, and what they mean.

    The board has one keymap, and the form, where printable keys are text, another. A key that is let
    go means nothing in either. With the control key held down only a few keys mean anything; the
    other modifiers are ignored. -/

namespace TaskWatch.Board

/-- A key. -/
inductive KeyCode where
  | char (c : Char)
  | enter
  | escape
  | tab
  | backTab
  | backspace
  | up
  | down
  | left
  | right
  /-- A key that no keymap knows. -/
  | other (name : String)
  deriving DecidableEq, Repr

/-- The modifiers held down with a key. -/
structure Modifiers where
  control : Bool := false
  shift : Bool := false
  alt : Bool := false
  logo : Bool := false
  deriving DecidableEq, Repr

/-- What happens to a key. -/
inductive Stroke where
  | press
  | again
  | release
  deriving DecidableEq, Repr

/-- An event at the keyboard. -/
structure KeyEvent where
  code : KeyCode
  modifiers : Modifiers := {}
  stroke : Stroke := .press
  deriving DecidableEq, Repr

/-- What a key asks of the board. -/
inductive Action where
  | quit
  | refresh
  | newTask
  | moveUp
  | moveDown
  | pauseUpdates
  | cancel
  deriving DecidableEq, Repr

/-- What a key asks of the form. -/
inductive FormAction where
  | input (c : Char)
  | backspace
  | nextField
  | previousField
  | nextOption
  | previousOption
  | submit
  | close
  deriving DecidableEq, Repr

/-- The name of an action. -/
def Action.name : Action → String
  | .quit => "Quit"
  | .refresh => "Refresh"
  | .newTask => "NewTask"
  | .moveUp => "MoveUp"
  | .moveDown => "MoveDown"
  | .pauseUpdates => "PauseUpdates"
  | .cancel => "Cancel"

/-- The name of an action on the form. -/
def FormAction.name : FormAction → String
  | .input c => "Input(" ++ Text.quotedChar c ++ ")"
  | .backspace => "Backspace"
  | .nextField => "NextField"
  | .previousField => "PrevField"
  | .nextOption => "NextOption"
  | .previousOption => "PrevOption"
  | .submit => "Submit"
  | .close => "Close"

/-- What a key with the control key held down asks of the board. -/
def controlAction? (code : KeyCode) : Option Action :=
  if code = .char 'c' then some .quit
  else if code = .char 'r' then some .refresh
  else none

/-- What a key on its own asks of the board. -/
def plainAction? (code : KeyCode) : Option Action :=
  if code = .char 'q' then some .quit
  else if code = .char 'r' then some .refresh
  else if code = .char 'n' then some .newTask
  else if code = .char 'p' then some .pauseUpdates
  else if code = .up ∨ code = .char 'k' then some .moveUp
  else if code = .down ∨ code = .char 'j' then some .moveDown
  else if code = .escape then some .cancel
  else none

/-- The keymap of the board. -/
def action? (e : KeyEvent) : Option Action :=
  if e.stroke = .release then none
  else if e.modifiers.control then controlAction? e.code
  else plainAction? e.code

/-- What a key on its own asks of the form. -/
def plainFormAction? : KeyCode → Option FormAction
  | .escape => some .close
  | .enter => some .submit
  | .tab | .down => some .nextField
  | .backTab | .up => some .previousField
  | .right => some .nextOption
  | .left => some .previousOption
  | .backspace => some .backspace
  | .char c => some (.input c)
  | .other _ => none

/-- The keymap of the form. -/
def formAction? (e : KeyEvent) : Option FormAction :=
  if e.stroke = .release then none
  else if e.modifiers.control then (if e.code = .char 'c' then some .close else none)
  else plainFormAction? e.code

end TaskWatch.Board
