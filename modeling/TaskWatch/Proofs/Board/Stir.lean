import TaskWatch.Proofs.Board.Desk
import TaskWatch.Proofs.Board.Shift
import TaskWatch.Proofs.Board.UpToDate

/-! What a step of a shift can do to the queries and the selection.

    Most keys leave the queries alone and may move the selection to a row that is shown. A look shows
    what there is, the pause key begins or ends the interest in both queries, a refresh fetches them
    anew, a task that was created makes them stale, and jobs work on one cache each. `Stir` says that
    this is all, and what is kept of the queries and the selection is proved from it case by case. -/

namespace TaskWatch

open Cache Board

variable {b b' : Board} {now : Time.Instant} {t t' : Shift}

/-! ### What an event does -/

namespace Board

/-- A selection that stays or moves to a row that is shown. -/
def Moves (b b' : Board) : Prop :=
  b'.selected = b.selected ∨ ∃ task ∈ b.rows, b'.selected = some task.id

theorem moves_selectRow (i : Nat) (b : Board) : b.Moves (b.selectRow i) := by
  unfold selectRow
  cases row : b.rows[i]? with
  | none => exact .inl rfl
  | some task => exact .inr ⟨task, List.mem_of_getElem? row, rfl⟩

theorem selected_openForm (b : Board) : b.openForm.selected = b.selected := by
  unfold openForm
  split <;> rfl

theorem selected_actOnForm (a : FormAction) (b : Board) : (b.actOnForm a).1.selected = b.selected := by
  obtain ⟨_, _, same⟩ := actOnForm_eq a b
  rw [same]

/-- All that an event can do to the queries and the selection. -/
inductive Deals (now : Time.Instant) (b : Board) : Board → Prop
  | rests {b' : Board} (watch : b'.watch = b.watch) (moves : b.Moves b') : Deals now b b'
  | toggles : Deals now b (b.togglePause now)
  | refreshes : Deals now b (b.refresh now)
  | stales {b' : Board} (watch : b'.watch = (b.invalidate now).watch)
      (selected : b'.selected = b.selected) : Deals now b b'

theorem deals_act (now : Time.Instant) (a : Action) (b : Board) : Deals now b (b.act now a).1 := by
  cases a with
  | quit => exact .rests rfl (.inl rfl)
  | moveDown => exact .rests (watch_selectRow _ b) (moves_selectRow _ b)
  | moveUp => exact .rests (watch_selectRow _ b) (moves_selectRow _ b)
  | pauseUpdates => exact .toggles
  | refresh => exact .refreshes
  | newTask => exact .rests (watch_openForm b) (.inl (selected_openForm b))
  | cancel => exact .rests rfl (.inl rfl)

theorem deals_handle (now : Time.Instant) (h : Happening) (b : Board) :
    Deals now b (b.handle now h).1 := by
  cases h with
  | key e =>
    unfold handle
    dsimp only
    split
    · split
      · exact .rests (watch_actOnForm _ b) (.inl (selected_actOnForm _ b))
      · exact .rests rfl (.inl rfl)
    · split
      · exact deals_act now _ b
      · exact .rests rfl (.inl rfl)
  | resize => exact .rests rfl (.inl rfl)
  | created outcome =>
    cases outcome with
    | ok task => exact .stales rfl rfl
    | error message => exact .rests rfl (.inl rfl)

/-- A refresh leaves the watchers as they are. -/
theorem watchers_refresh (now : Time.Instant) (b : Board) :
    (b.refresh now).tasks = b.tasks ∧ (b.refresh now).metrics = b.metrics := by
  unfold refresh
  split
  · exact ⟨rfl, rfl⟩
  · split
    · exact ⟨rfl, rfl⟩
    · dsimp only
      split <;> exact ⟨rfl, rfl⟩

theorem watch_detachTasks (now : Time.Instant) (b : Board) : (b.detachTasks now).watch =
    ((b.tasks.detach now b.tasksCache).1, { (b.tasks.detach now b.tasksCache).2 with journal := [] },
      b.metrics, b.metricsCache, b.paused) := by
  unfold detachTasks
  dsimp only
  split <;> rfl

theorem watch_detachMetrics (now : Time.Instant) (b : Board) : (b.detachMetrics now).watch =
    (b.tasks, b.tasksCache, (b.metrics.detach now b.metricsCache).1,
      { (b.metrics.detach now b.metricsCache).2 with journal := [] }, b.paused) := by
  unfold detachMetrics
  dsimp only
  split <;> rfl

/-- Each watcher stops on its own. -/
theorem watch_stop (now : Time.Instant) (b : Board) : (b.stop now).watch =
    ((b.tasks.detach now b.tasksCache).1, { (b.tasks.detach now b.tasksCache).2 with journal := [] },
      (b.metrics.detach now b.metricsCache).1,
      { (b.metrics.detach now b.metricsCache).2 with journal := [] }, b.paused) := by
  have first := watch_detachTasks now b
  simp only [watch, Prod.mk.injEq] at first
  obtain ⟨watcher, cache, watcher', cache', paused⟩ := first
  rw [stop, watch_detachMetrics, watcher, cache, watcher', cache', paused]

/-- The pause key takes both watchers away. -/
theorem watch_togglePause_running (now : Time.Instant) (running : b.paused = false) :
    (b.togglePause now).watch = (stop now { b with paused := true }).watch := by
  unfold togglePause
  rw [running]
  rfl

/-- The pause key brings both watchers back. -/
theorem watch_togglePause_paused (now : Time.Instant) (paused : b.paused = true) :
    (b.togglePause now).watch = (start now { b with paused := false }).watch := by
  unfold togglePause
  rw [paused]
  rfl

end Board

/-! ### What a step does -/

namespace Shift

/-- All that a step can do to the queries and the selection. -/
inductive Stir (t t' : Shift) : Prop
  | deals {b : Board} (now : t'.now = t.now) (deals : Deals t.now t.board b)
      (board : t'.board = { b with journal := [] })
  | looks (now : t'.now = t.now) (board : t'.board = { t.board.sync.1 with journal := [] })
  | tasks {σ : Type} (supplier : Supplier σ (List Task)) (state : σ) {j : Job}
      (listed : j ∈ t.board.tasksCache.agenda) (due : j.isDue t.now.elapsed = true)
      (now : t'.now = t.now)
      (board : t'.board = { t.board.withTasks
        (t.board.tasksCache.runJob supplier t.now j state).1 with journal := [] })
  | metrics {σ : Type} (supplier : Supplier σ Metrics) (state : σ) {j : Job}
      (listed : j ∈ t.board.metricsCache.agenda) (due : j.isDue t.now.elapsed = true)
      (now : t'.now = t.now)
      (board : t'.board = { t.board.withMetrics
        (t.board.metricsCache.runJob supplier t.now j state).1 with journal := [] })
  | passes (later : t.now.elapsed ≤ t'.now.elapsed) (board : t'.board = t.board)

theorem Step.stir (step : Step t t') : Stir t t' := by
  cases step with
  | look => exact .looks rfl rfl
  | key e => exact .deals rfl (deals_handle t.now (.key e) t.board) rfl
  | resize => exact .deals rfl (deals_handle t.now .resize t.board) rfl
  | settle i out outcome => exact .deals rfl (deals_handle t.now (.created outcome) t.board) rfl
  | tasks supplier state listed due => exact .tasks supplier state listed due rfl rfl
  | metrics supplier state listed due => exact .metrics supplier state listed due rfl rfl
  | pass now later => exact .passes later rfl

end Shift

end TaskWatch
