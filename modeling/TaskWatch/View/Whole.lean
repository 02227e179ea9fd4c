import TaskWatch.View.Card
import TaskWatch.View.Form

/-! The whole screen of the board.

    From top to bottom: a line on the state of the board, the cards with the headline numbers, the
    tasks, and the latest notice under the keys that can be pressed. The form is drawn over all of
    it. -/

namespace TaskWatch.View

open Screen

/-- The line on the state of the board. -/
def stateLine (b : Board) : Line :=
  let mode : Span := if b.paused then ⟨"PAUSED", ink (·.warning)⟩ else ⟨"LIVE", ink (·.success)⟩
  let updated := ((b.metrics.snapshot.bind (·.updatedAt)).map (·.clockText)).getD "never"
  [⟨"Dashboard", ink (·.primary)⟩, ⟨" | ", {}⟩, mode, ⟨" | Last update: " ++ updated, ink (·.dim)⟩]

/-- A headline number: its title, its caption, the number, and whether a high one is bad news. -/
structure Headline where
  title : String
  caption : String
  value : Metrics → UInt32
  alarming : Bool := false

/-- The headline numbers in order. -/
def headlines : List Headline :=
  [ { title := "Total Tasks", caption := "All tracked tasks", value := (·.total) },
    { title := "Tasks Running", caption := "Live now", value := (·.running) },
    { title := "Completed Today", caption := "Finished successfully", value := (·.completed) },
    { title := "Failed Tasks", caption := "Needs attention", value := (·.failed), alarming := true } ]

/-- The card of a headline number. Its frame shows whether the last fetch failed. -/
def headlineCard (b : Board) (h : Headline) : Card where
  title := h.title
  value := b.metrics.data.map h.value
  caption := h.caption
  valueStyle := if h.alarming then ink (·.error) else ink (·.text)
  captionStyle := ink (·.dim)
  borderStyle :=
    if b.metrics.snapshot.any (fun e => e.phase == .error) then ink (·.error) else ink (·.border)

/-- Draws the cards side by side. -/
def drawCards (b : Board) (a : Area) (g : Grid) : Grid :=
  (headlines.zip (a.sideBySide headlines.length)).foldl (fun g (h, part) => (headlineCard b h).draw part g) g

/-- The keys that can be pressed. -/
def keyHelp (b : Board) : String :=
  if b.form.isSome then "Tab/Shift-Tab field • ←/→ type • Enter submit • Esc close"
  else "j/k move • r refresh • n new task • p pause • q quit"

/-- The colour of a notice. -/
def noticeStyle : Board.NoticeLevel → Style
  | .info => ink (·.info)
  | .warning => ink (·.warning)
  | .error => ink (·.error)
  | .success => ink (·.success)

/-- The latest notice. -/
def noticeText (b : Board) : String × Style :=
  match b.notices.getLast? with
  | some n => (n.level.label ++ ": " ++ n.message, noticeStyle n.level)
  | none => ("Ready.", ink (·.dim))

/-- Draws the latest notice under the keys that can be pressed. -/
def drawNotice (b : Board) (a : Area) (g : Grid) : Grid :=
  let (text, style) := noticeText b
  drawFramed ⟨[keyHelp b], {}⟩ a .cut style ((textLines text).map (fun l => [⟨l, {}⟩])) g

/-- The screen of the board. -/
def draw (width height : Nat) (b : Board) : Grid :=
  let blank := Grid.blank width height
  let drawn := match blank.area.stack [.exactly 3, .exactly 4, .rest 0, .exactly 3] with
    | [top, cards, middle, bottom] =>
      let g := drawFramed ⟨["Taskboard"], ink (·.border)⟩ top .cut {} [stateLine b] blank
      drawNotice b bottom (drawTasks b middle (drawCards b cards g))
    | _ => blank
  match b.form with
  | some e => drawForm e (blank.area.centered formPercent formHeight) drawn
  | none => drawn

end TaskWatch.View
