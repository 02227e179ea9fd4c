import TaskWatch.Board.Keyboard
import TaskWatch.Board.Notice
import TaskWatch.Form.Editor
import TaskWatch.Source.Memory
import TaskWatch.Watcher

/-! The board: what is shown, and what the keys do to it.

    The board watches two queries, the list of tasks and the headline numbers, each in a cache of its
    own. The selection is the id of a task and so survives a change of the list. While updates are
    paused the board takes no interest in its queries and shows what it saw last. -/

namespace TaskWatch

open Cache Board

/-- The name of the query for the list of tasks. -/
def tasksKey : Key := .single "tasks"

/-- The name of the query for the headline numbers. -/
def metricsKey : Key := .single "dashboardMetrics"

/-- The board. -/
structure Board where
  tasksCache : Cache (List Task)
  metricsCache : Cache Metrics
  tasks : Watcher (List Task)
  metrics : Watcher Metrics
  /-- The id of the selected task. -/
  selected : Option String := none
  form : Option Editor := none
  notices : List Notice := []
  paused : Bool := false
  /-- What was reported, the latest first. -/
  journal : List Log.Line := []

namespace Board

/-- A board whose queries are polled and kept as given. -/
def make (grace : Nat) (tasksOptions metricsOptions : Options) : Board :=
  { tasksCache := { grace }, metricsCache := { grace }
    tasks := { key := tasksKey, producer := 0, options := tasksOptions }
    metrics := { key := metricsKey, producer := 0, options := metricsOptions } }

/-- Reports a line. -/
def report (l : Log.Line) (b : Board) : Board := { b with journal := l :: b.journal }

/-- Takes over the cache of tasks as it has become, and reports what it reported. -/
def withTasks (c : Cache (List Task)) (b : Board) : Board :=
  { b with
    tasksCache := { c with journal := [] }
    journal := c.journal.map Event.line ++ b.journal }

/-- Takes over the cache of headline numbers as it has become, and reports what it reported. -/
def withMetrics (c : Cache Metrics) (b : Board) : Board :=
  { b with
    metricsCache := { c with journal := [] }
    journal := c.journal.map Event.line ++ b.journal }

/-! ### Watching -/

/-- Takes an interest in the list of tasks. -/
def attachTasks (now : Time.Instant) (b : Board) : Board :=
  match b.tasks.attach now b.tasksCache with
  | .error _ => b
  | .ok (w, c) =>
    let after := { b.withTasks c with tasks := w }
    if b.tasks.isAttached then after else after.report w.attachedLine

/-- Takes an interest in the headline numbers. -/
def attachMetrics (now : Time.Instant) (b : Board) : Board :=
  match b.metrics.attach now b.metricsCache with
  | .error _ => b
  | .ok (w, c) =>
    let after := { b.withMetrics c with metrics := w }
    if b.metrics.isAttached then after else after.report w.attachedLine

/-- Takes an interest in both queries. -/
def start (now : Time.Instant) (b : Board) : Board := (b.attachTasks now).attachMetrics now

/-- Takes no interest in the list of tasks any more. -/
def detachTasks (now : Time.Instant) (b : Board) : Board :=
  let (w, c) := b.tasks.detach now b.tasksCache
  let after := { b.withTasks c with tasks := w }
  if b.tasks.isAttached then after.report w.detachedLine else after

/-- Takes no interest in the headline numbers any more. -/
def detachMetrics (now : Time.Instant) (b : Board) : Board :=
  let (w, c) := b.metrics.detach now b.metricsCache
  let after := { b.withMetrics c with metrics := w }
  if b.metrics.isAttached then after.report w.detachedLine else after

/-- Takes no interest in either query any more. -/
def stop (now : Time.Instant) (b : Board) : Board := (b.detachTasks now).detachMetrics now

/-! ### The selection -/

/-- The tasks that are shown. -/
def rows (b : Board) : List Task := b.tasks.data.getD []

/-- The row of the selected task. -/
def selectedRow? (b : Board) : Option Nat :=
  b.selected.bind (fun id => b.rows.findIdx? (fun t => t.id == id))

/-- The selected task. -/
def selectedTask? (b : Board) : Option Task := b.selectedRow?.bind (fun i => b.rows[i]?)

/-- Selects the task of a row, if there is such a row. -/
def selectRow (i : Nat) (b : Board) : Board :=
  match b.rows[i]? with
  | some t => { b with selected := some t.id }
  | none => b

/-- Selects the row below, or the first. -/
def selectNext (b : Board) : Board :=
  b.selectRow (match b.selectedRow? with
    | some i => if i + 1 < b.rows.length then i + 1 else i
    | none => 0)

/-- Selects the row above, or the first. -/
def selectPrevious (b : Board) : Board :=
  b.selectRow (match b.selectedRow? with
    | some i => i - 1
    | none => 0)

/-- Keeps the selection only if there is such a task, once the tasks are known. -/
def reconcile (b : Board) : Board :=
  if b.tasks.data.isSome && b.selectedRow?.isNone then
    { b with selected := b.rows.head?.map (·.id) }
  else b

/-- Looks at both queries, unless updates are paused. The answer says whether either had changed. -/
def sync (b : Board) : Board × Bool :=
  if b.paused then (b, false)
  else
    let (tasks, tasksChanged) := b.tasks.sync b.tasksCache
    let (metrics, metricsChanged) := b.metrics.sync b.metricsCache
    let seen := { b with tasks, metrics }
    if tasksChanged || metricsChanged then (seen.reconcile, true) else (seen, false)

/-! ### Keys of the board -/

/-- Shows a notice. -/
def notify (now : Time.Instant) (level : NoticeLevel) (message : String) (b : Board) : Board :=
  { b with notices := addNotice b.notices ⟨level, message, now.wall⟩ }

/-- Pauses updates, or resumes them. -/
def togglePause (now : Time.Instant) (b : Board) : Board :=
  let toggled := { b with paused := !b.paused }
  let done :=
    if toggled.paused then (toggled.stop now).notify now .info "Updates paused."
    else (toggled.start now).notify now .info "Updates resumed."
  done.report (.board .info "updates toggled" [("paused", if done.paused then "true" else "false")])

/-- Fetches both queries anew, unless updates are paused. -/
def refresh (now : Time.Instant) (b : Board) : Board :=
  if b.paused then b.notify now .warning "Updates are paused; press p to resume."
  else match b.tasksCache.refetch now b.tasks.key with
    | .error m => b.notify now .error ("Refresh failed: " ++ m.message)
    | .ok c =>
      let b := b.withTasks c
      match b.metricsCache.refetch now b.metrics.key with
      | .error m => b.notify now .error ("Refresh failed: " ++ m.message)
      | .ok c => b.withMetrics c

/-- Opens the form, unless it is open. -/
def openForm (b : Board) : Board := if b.form.isNone then { b with form := some {} } else b

/-- What is left to do after an event was handled. -/
inductive Reaction where
  | none
  /-- The program ends. -/
  | quit
  /-- A task is asked for. -/
  | create (r : Request)

/-- Does what a key asks of the board. -/
def act (now : Time.Instant) (a : Action) (b : Board) : Board × Reaction :=
  match a with
  | .quit => (b, .quit)
  | .moveDown => (b.selectNext, .none)
  | .moveUp => (b.selectPrevious, .none)
  | .pauseUpdates => (b.togglePause now, .none)
  | .refresh => (b.refresh now, .none)
  | .newTask => (b.openForm, .none)
  | .cancel => ({ b with notices := [] }, .none)

/-! ### Keys of the form -/

/-- Asks for the task that the form describes, if it keeps the rules and nothing is under way. -/
def submit (b : Board) : Board × Reaction :=
  match b.form with
  | none => (b, .none)
  | some e =>
    if e.submitting then (b, .none)
    else match e.form.validate with
      | .error vs =>
        ({ b with form := some { e with violations := some vs } }.report
          (.board .warn "task form rejected" [("errors", Violations.text vs)]), .none)
      | .ok r =>
        ({ b with form := some { e with violations := none, submitting := true } }, .create r)

/-- Changes the form, if it is open. -/
def edit (f : Editor → Editor) (b : Board) : Board := { b with form := b.form.map f }

/-- Does what a key asks of the form. -/
def actOnForm (a : FormAction) (b : Board) : Board × Reaction :=
  match a with
  | .submit => b.submit
  | .close => ({ b with form := none }, .none)
  | .input c => (b.edit (·.input c), .none)
  | .backspace => (b.edit (·.backspace), .none)
  | .nextField => (b.edit (·.focusNext), .none)
  | .previousField => (b.edit (·.focusPrevious), .none)
  | .nextOption => (b.edit (·.cycleKind true), .none)
  | .previousOption => (b.edit (·.cycleKind false), .none)

/-! ### Events -/

/-- What came of asking for a task. -/
abbrev Created := Except String Task

/-- What happens to the board. -/
inductive Happening where
  | key (e : KeyEvent)
  | resize
  | created (outcome : Created)

/-- Declares both queries stale. -/
def invalidate (now : Time.Instant) (b : Board) : Board :=
  let b := b.withTasks (b.tasksCache.invalidate now b.tasks.key).1
  b.withMetrics (b.metricsCache.invalidate now b.metrics.key).1

/-- Takes note of what came of asking for a task. -/
def handleCreated (now : Time.Instant) (outcome : Created) (b : Board) : Board :=
  match outcome with
  | .ok t =>
    let b := b.report (.board .info "task created" [("task_id", t.id)])
    ({ b with form := none }.invalidate now).notify now .success
      ("Task \"" ++ t.name ++ "\" created.")
  | .error message =>
    (b.edit (fun e => { e with submitting := false })).notify now .error
      ("Failed to create task: " ++ message)

/-- Handles an event. While the form is open it takes every key. -/
def handle (now : Time.Instant) (h : Happening) (b : Board) : Board × Reaction :=
  match h with
  | .key e =>
    if b.form.isSome then
      match formAction? e with
      | some a => b.actOnForm a
      | none => (b, .none)
    else match action? e with
      | some a => b.act now a
      | none => (b, .none)
  | .created outcome => (b.handleCreated now outcome, .none)
  | .resize => (b, .none)

end Board

end TaskWatch
