import TaskWatch.Screen.Style
import TaskWatch.Task.Kind
import TaskWatch.Task.Status

/-! The colours of the board. -/

namespace TaskWatch.View

open Screen

/-- The colours of the board, by what they are for. -/
structure Palette where
  background : Color
  highlight : Color
  primary : Color
  secondary : Color
  success : Color
  warning : Color
  error : Color
  info : Color
  text : Color
  dim : Color
  border : Color
  focus : Color
  deriving DecidableEq, Repr

/-- The colours that the board is drawn in. -/
def palette : Palette where
  background := .rgb 10 10 10
  highlight := .rgb 42 42 42
  primary := .rgb 0 255 255
  secondary := .rgb 255 0 255
  success := .rgb 0 255 0
  warning := .rgb 255 255 0
  error := .rgb 255 0 0
  info := .rgb 0 255 255
  text := .rgb 255 255 255
  dim := .rgb 136 136 136
  border := .rgb 68 68 68
  focus := .rgb 0 255 255

namespace Palette

/-- The colours in their order. -/
def all (p : Palette) : List Color :=
  [p.background, p.highlight, p.primary, p.secondary, p.success, p.warning, p.error, p.info,
   p.text, p.dim, p.border, p.focus]

/-- The colour of a status. -/
def status (p : Palette) : Status → Color
  | .pending => p.dim
  | .running => p.primary
  | .completed => p.success
  | .failed => p.error

/-- The badge of a status: filled once the task has ended, bold once it has begun. -/
def badge (p : Palette) (s : Status) : Style :=
  match s with
  | .completed | .failed =>
    { foreground := some p.background, background := some (p.status s), bold := true }
  | .running => { foreground := some (p.status s), bold := true }
  | .pending => { foreground := some (p.status s) }

/-- The colour of a kind. -/
def kind (p : Palette) : Kind → Color
  | .email => p.primary
  | .notification => p.secondary
  | .report => p.info
  | .maintenance => p.warning

/-- The colour of a priority: high from 8 on, low below 4. -/
def priority (p : Palette) (n : UInt8) : Color :=
  if 8 ≤ n then p.error else if 4 ≤ n then p.warning else p.dim

end Palette

end TaskWatch.View
