import TaskWatch.Board.Basic

/-! What the operations of a board do to all that is not of its queries.

    The selection, the form and the pause are the desk of the board. To watch queries, to fetch them anew
    and to declare them stale leaves the desk alone, and each key changes one thing on it at most. -/

namespace TaskWatch.Board

open Cache

variable {b : Board} {now : Time.Instant}

/-- What lies on the desk: the selection, the form, and whether updates are paused. -/
def desk (b : Board) : Option String × Option Editor × Bool := (b.selected, b.form, b.paused)

theorem desk_attachTasks (now : Time.Instant) (b : Board) : (b.attachTasks now).desk = b.desk := by
  unfold attachTasks
  split
  · rfl
  · dsimp only
    split <;> rfl

theorem desk_attachMetrics (now : Time.Instant) (b : Board) : (b.attachMetrics now).desk = b.desk := by
  unfold attachMetrics
  split
  · rfl
  · dsimp only
    split <;> rfl

/-- Each watcher goes its own way. -/
theorem tasks_attachMetrics (now : Time.Instant) (b : Board) :
    (b.attachMetrics now).tasks = b.tasks := by
  unfold attachMetrics
  split
  · rfl
  · dsimp only
    split <;> rfl

theorem desk_start (now : Time.Instant) (b : Board) : (b.start now).desk = b.desk :=
  (desk_attachMetrics now _).trans (desk_attachTasks now b)

theorem desk_detachTasks (now : Time.Instant) (b : Board) : (b.detachTasks now).desk = b.desk := by
  unfold detachTasks
  dsimp only
  split <;> rfl

theorem desk_detachMetrics (now : Time.Instant) (b : Board) : (b.detachMetrics now).desk = b.desk := by
  unfold detachMetrics
  dsimp only
  split <;> rfl

theorem desk_stop (now : Time.Instant) (b : Board) : (b.stop now).desk = b.desk :=
  (desk_detachMetrics now _).trans (desk_detachTasks now b)

theorem desk_refresh (now : Time.Instant) (b : Board) : (b.refresh now).desk = b.desk := by
  unfold refresh
  split
  · rfl
  · split
    · rfl
    · dsimp only
      split <;> rfl

/-- To pause or to resume is all that the key does to the desk. -/
theorem desk_togglePause (now : Time.Instant) (b : Board) :
    (b.togglePause now).desk = (b.selected, b.form, !b.paused) := by
  unfold togglePause
  dsimp only
  split
  · exact desk_stop now { b with paused := !b.paused }
  · exact desk_start now { b with paused := !b.paused }

/-- To select a row changes the selection and nothing else, and it does so only if there is such a
    row. -/
theorem selectRow_eq (i : Nat) (b : Board) :
    b.selectRow i = { b with selected := ((b.rows[i]?).map (·.id)).or b.selected } := by
  unfold selectRow
  cases b.rows[i]? <;> rfl

/-- The selection moves to a task that is shown, or stays. -/
theorem desk_selectRow (i : Nat) (b : Board) :
    (b.selectRow i).desk = (((b.rows[i]?).map (·.id)).or b.selected, b.form, b.paused) := by
  rw [selectRow_eq]
  rfl

/-- A board that is paused does not look. -/
theorem sync_paused (paused : b.paused = true) : b.sync = (b, false) := by
  rw [sync, if_pos paused]

/-- A look can move the selection, and nothing else on the desk. -/
theorem desk_sync (b : Board) : b.sync.1.desk = (b.sync.1.selected, b.form, b.paused) := by
  have reconciled (b : Board) : b.reconcile.desk = (b.reconcile.selected, b.form, b.paused) := by
    unfold reconcile
    split <;> rfl
  unfold sync
  split
  · rfl
  · dsimp only
    split
    · exact reconciled _
    · rfl

theorem form_sync (b : Board) : b.sync.1.form = b.form := congrArg (·.2.1) (desk_sync b)

theorem paused_sync (b : Board) : b.sync.1.paused = b.paused := congrArg (·.2.2) (desk_sync b)

/-- A key of the board asks for no task, and the form it finds closed is opened afresh or stays
    closed. -/
theorem form_act (now : Time.Instant) (a : Action) (closed : b.form = none) :
    (∀ r, (b.act now a).2 ≠ .create r) ∧
      ((b.act now a).1.form = none ∨ (b.act now a).1.form = some {}) := by
  have kept {b' : Board} (same : b'.form = b.form) : b'.form = none ∨ b'.form = some {} :=
    .inl (same.trans closed)
  cases a with
  | quit => exact ⟨nofun, kept rfl⟩
  | refresh => exact ⟨nofun, kept (congrArg (·.2.1) (desk_refresh now b))⟩
  | newTask => exact ⟨nofun, .inr (by simp [act, openForm, closed])⟩
  | moveUp => exact ⟨nofun, kept (congrArg (·.2.1) (desk_selectRow _ b))⟩
  | moveDown => exact ⟨nofun, kept (congrArg (·.2.1) (desk_selectRow _ b))⟩
  | pauseUpdates => exact ⟨nofun, kept (congrArg (·.2.1) (desk_togglePause now b))⟩
  | cancel => exact ⟨nofun, kept rfl⟩

theorem submit_eq (b : Board) : ∃ form journal, b.submit.1 = { b with form, journal } := by
  unfold submit
  split
  · exact ⟨b.form, b.journal, rfl⟩
  · split
    · exact ⟨b.form, b.journal, rfl⟩
    · split <;> exact ⟨_, _, rfl⟩

/-- A key of the form leaves the board as it was, but for the form and what was reported. -/
theorem actOnForm_eq (a : FormAction) (b : Board) :
    ∃ form journal, (b.actOnForm a).1 = { b with form, journal } := by
  cases a with
  | submit => exact submit_eq b
  | _ => exact ⟨_, b.journal, rfl⟩

end TaskWatch.Board
