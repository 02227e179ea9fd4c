/-! Colours, and how a piece of text is to look.

    A style says only what it changes: what it leaves open stays as it is. The look of a place on the
    screen leaves nothing open. -/

namespace TaskWatch.Screen

/-- A colour. -/
inductive Color where
  /-- The terminal's own colour. -/
  | reset
  | red
  | green
  | blue
  | rgb (red green blue : UInt8)
  deriving DecidableEq, Repr

/-- Two hexadecimal digits. -/
def hexPair (b : UInt8) : String :=
  let digit (n : Nat) : Char := Char.ofNat (if n < 10 then 48 + n else 87 + n)
  String.ofList [digit (b.toNat / 16), digit (b.toNat % 16)]

/-- The name of a colour. -/
def Color.name : Color → String
  | .reset => "reset"
  | .red => "red"
  | .green => "green"
  | .blue => "blue"
  | .rgb r g b => "#" ++ hexPair r ++ hexPair g ++ hexPair b

/-- What is to change in a look. -/
structure Style where
  foreground : Option Color := none
  background : Option Color := none
  bold : Bool := false
  deriving DecidableEq, Repr

/-- The style with the given colour of letters. -/
def Style.color (c : Color) : Style := { foreground := some c }

/-- The style with a second one laid over it. -/
def Style.over (base top : Style) : Style :=
  { foreground := top.foreground <|> base.foreground
    background := top.background <|> base.background
    bold := base.bold || top.bold }

/-- How a place on the screen looks. -/
structure Look where
  foreground : Color := .reset
  background : Color := .reset
  bold : Bool := false
  deriving DecidableEq, Repr

/-- The look changed as a style says. -/
def Look.patch (l : Look) (s : Style) : Look :=
  { foreground := s.foreground.getD l.foreground
    background := s.background.getD l.background
    bold := l.bold || s.bold }

/-- The names of the modifiers that are set. -/
def modifierNames (bold : Bool) : String := if bold then "bold" else ""

end TaskWatch.Screen
