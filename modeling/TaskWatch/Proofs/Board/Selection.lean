import TaskWatch.Proofs.Board.Stir

/-! The selection fits the tasks that are shown.

    A look that finds a change makes the selection fit: it stays where it is if that task is still shown,
    and goes to the first task otherwise. From then on it fits as long as updates are not paused, for
    the tasks that are shown change only with such a look, and keys move the selection to tasks that
    are shown. But when updates are resumed, what there is at that moment is shown at once and counts
    as seen, and the selection is left as it was, until a look finds a change again. -/

namespace TaskWatch

open Cache Board Relation

variable {b b' : Board} {now : Time.Instant} {t t' : Shift}

theorem Watcher.sync_unchanged {α : Type} {w : Watcher α} {c : Cache α} (same : (w.sync c).2 = false) :
    (w.sync c).1 = w := by
  unfold Watcher.sync at same ⊢
  split
  · rename_i h held
    simp only [held] at same
    split
    · rename_i changed
      simp [changed] at same
    · rfl
  · rfl

/-- Whoever is the first to take an interest in a query has seen no data of it. -/
theorem Watcher.data_attach_vacant {α : Type} {w w' : Watcher α} {c c' : Cache α}
    (vacant : c.slots.find? w.key = none) (away : w.isAttached = false)
    (done : w.attach now c = .ok (w', c')) : w'.data = none := by
  unfold Watcher.attach at done
  rw [if_neg (by simp [away])] at done
  split at done
  · rename_i c₁ h subscribed
    have valid := valid_of_subscribe subscribed
    rw [subscribe_vacant valid vacant] at subscribed
    obtain ⟨rfl, rfl⟩ := Prod.mk.inj (Except.ok.inj subscribed)
    obtain ⟨rfl, rfl⟩ := Prod.mk.inj (Except.ok.inj done)
    obtain ⟨⟨s, found, birth, entry⟩, -⟩ := founded_spec none now w.key w.producer w.options c
    obtain ⟨s', found', birth', entry'⟩ := find?_reschedule_entry now found
    rw [Watcher.data, Handle.current_there found' (birth'.trans birth), entry', entry]
    rfl
  · simp at done

namespace Board

/-- If tasks are shown, one of them is selected, and none is if there are none. -/
def Fits (b : Board) : Prop :=
  ∀ ts, b.tasks.data = some ts → (∃ task ∈ ts, b.selected = some task.id) ∨ ts = [] ∧ b.selected = none

/-- The same selection fits the same tasks. -/
theorem Fits.congr (fits : b.Fits) (tasks : b'.tasks = b.tasks) (selected : b'.selected = b.selected) :
    b'.Fits := fun ts shown => selected ▸ fits ts (tasks ▸ shown)

theorem rows_of_data {ts : List Task} (shown : b.tasks.data = some ts) : b.rows = ts := by
  rw [rows, shown, Option.getD_some]

/-- No row is that of the selected task just when no task that is shown is the selected one. -/
theorem selectedRow?_eq_none : b.selectedRow? = none ↔ ∀ task ∈ b.rows, b.selected ≠ some task.id := by
  unfold selectedRow?
  cases b.selected with
  | none => simp
  | some id =>
    rw [Option.bind_some, List.findIdx?_eq_none_iff]
    simp only [beq_eq_false_iff_ne, ne_eq, Option.some.injEq]
    exact forall₂_congr fun _ _ => not_congr eq_comm

theorem fits_reconcile (b : Board) : b.reconcile.Fits := by
  have kept : b.reconcile.tasks = b.tasks := congrArg (·.1) (watch_reconcile b)
  intro ts shown
  rw [kept] at shown
  unfold reconcile
  cases row : b.selectedRow? with
  | some i =>
    -- A row that is selected is that of a task that is shown.
    refine .inl ?_
    have listed : ¬ ∀ task ∈ b.rows, b.selected ≠ some task.id := by simp [← selectedRow?_eq_none, row]
    simpa [rows_of_data shown] using listed
  | none =>
    simp only [shown, rows_of_data shown]
    cases ts with
    | nil => exact .inr ⟨rfl, rfl⟩
    | cons task rest => exact .inl ⟨task, List.mem_cons_self .., rfl⟩

/-- A selected task that is shown stays selected. -/
theorem selected_reconcile {id : String} (selected : b.selected = some id)
    (listed : ∃ task ∈ b.rows, task.id = id) : b.reconcile.selected = some id := by
  obtain ⟨task, shown, rfl⟩ := listed
  have row : b.selectedRow?.isNone = false := by
    refine Option.isNone_eq_false_iff.mpr (Option.isSome_iff_ne_none.mpr fun gone => ?_)
    exact selectedRow?_eq_none.mp gone task shown selected
  rw [reconcile, row, Bool.and_false, if_neg Bool.false_ne_true, selected]

/-- What a look leaves: the board as it was, or one that has seen a change and was reconciled. -/
theorem sync_cases (b : Board) :
    (b.sync.2 = false ∧ b.sync.1.tasks = b.tasks ∧ b.sync.1.selected = b.selected) ∨
      ∃ seen : Board, seen.selected = b.selected ∧ b.sync = (seen.reconcile, true) := by
  unfold sync
  split
  · exact .inl ⟨rfl, rfl, rfl⟩
  · dsimp only
    split
    · exact .inr ⟨{ b with
        tasks := (b.tasks.sync b.tasksCache).1, metrics := (b.metrics.sync b.metricsCache).1 }, rfl, rfl⟩
    · rename_i same
      simp only [Bool.or_eq_true, not_or, Bool.not_eq_true] at same
      exact .inl ⟨rfl, Watcher.sync_unchanged same.1, rfl⟩

/-- After a look the selection fits just when there was a change, or it did before. -/
theorem fits_sync_iff (b : Board) : b.sync.1.Fits ↔ b.sync.2 = true ∨ b.Fits := by
  rcases sync_cases b with ⟨same, tasks, selected⟩ | ⟨seen, -, looked⟩
  · rw [same]
    simp only [Bool.false_eq_true, false_or]
    exact ⟨fun fits => fits.congr tasks.symm selected.symm, fun fits => fits.congr tasks selected⟩
  · rw [looked]
    exact ⟨fun _ => .inl rfl, fun _ => fits_reconcile seen⟩

theorem Fits.moves (fits : b.Fits) (tasks : b'.tasks = b.tasks) (moves : b.Moves b') : b'.Fits := by
  rcases moves with same | ⟨task, shown, selected⟩
  · exact fits.congr tasks same
  · intro ts shown'
    rw [tasks] at shown'
    exact .inl ⟨task, rows_of_data shown' ▸ shown, selected⟩

end Board

namespace Shift

/-- The board has just been started, or it has just looked at its queries and there was a change. -/
inductive Informed : Shift → Prop
  | started (grace : Nat) (tasksOptions metricsOptions : Options) (selected : Option String)
      (now : Time.Instant) : Informed (started grace tasksOptions metricsOptions selected now)
  | looked {t : Shift} (ht : t.Started) (running : t.board.paused = false)
      (changed : t.board.sync.2 = true) : Informed t.look

/-- As long as updates are not paused, a selection that fits goes on to fit. -/
theorem Stir.fits (stir : Stir t t') (running : t.board.paused = false)
    (running' : t'.board.paused = false) (fits : t.board.Fits) : t'.board.Fits := by
  cases stir with
  | @deals b now deals board =>
    rw [board] at running' ⊢
    cases deals with
    | rests watch moves => exact fits.moves (congrArg (·.1) watch) moves
    | toggles =>
      have paused := congrArg (·.2.2) (desk_togglePause t.now t.board)
      simp only [desk, running] at paused
      simp [paused] at running'
    | refreshes =>
      exact fits.congr (watchers_refresh t.now t.board).1 (congrArg (·.1) (desk_refresh t.now t.board))
    | stales watch selected => exact fits.congr (congrArg (·.1) watch) selected
  | looks now board => exact board ▸ (fits_sync_iff t.board).mpr (.inr fits)
  | tasks supplier state listed due now board => exact board ▸ fits
  | metrics supplier state listed due now board => exact board ▸ fits
  | passes later board => exact board ▸ fits

/-- A board that was just started has no data to show. -/
theorem data_started (grace : Nat) (tasksOptions metricsOptions : Options) (selected : Option String)
    (now : Time.Instant) :
    (started grace tasksOptions metricsOptions selected now).board.tasks.data = none := by
  let b := (fresh grace tasksOptions metricsOptions selected now).board
  show ((b.attachTasks now).attachMetrics now).tasks.data = none
  rw [tasks_attachMetrics, attachTasks]
  split
  · rfl
  · rename_i w c done
    have unseen := Watcher.data_attach_vacant rfl rfl done
    dsimp only
    split <;> exact unseen

theorem fits_started (grace : Nat) (tasksOptions metricsOptions : Options) (selected : Option String)
    (now : Time.Instant) :
    (started grace tasksOptions metricsOptions selected now).board.Fits := fun ts shown => by
  simp [data_started] at shown

theorem Informed.fits (informed : t.Informed) : t.board.Fits ∧ t.board.paused = false := by
  cases informed with
  | started grace tasksOptions metricsOptions selected now =>
    exact ⟨fits_started _ _ _ _ _, congrArg (·.2.2) (desk_start now _)⟩
  | @looked t ht running changed =>
    exact ⟨(fits_sync_iff t.board).mpr (.inl changed), (paused_sync t.board).trans running⟩

theorem Informed.leads (informed : t.Informed) (run : ReflTransGen (During false) t t') :
    t'.board.Fits ∧ t'.board.paused = false := by
  induction run with
  | refl => exact informed.fits
  | tail _ step ih => exact ⟨step.1.stir.fits ih.2 step.2 ih.1, step.2⟩

end Shift

/-- After a look the selection fits the tasks that are shown just when there was a change to see, or it
    did before. It does whenever the board was started or saw a change, and updates were not paused
    since. In any case a selected task that is still shown stays selected. -/
theorem selection_fits_after_look (t : Shift) :
    (t.board.sync.1.Fits ↔ t.board.sync.2 = true ∨ t.board.Fits) ∧
    (∀ t₀ : Shift, t₀.Informed → ReflTransGen (Shift.During false) t₀ t → t.board.sync.1.Fits) ∧
    ∀ id, t.board.selected = some id → (∃ task ∈ t.board.sync.1.rows, task.id = id) →
      t.board.sync.1.selected = some id := by
  refine ⟨fits_sync_iff t.board, fun t₀ informed run => ?_, fun id selected listed => ?_⟩
  · exact (fits_sync_iff t.board).mpr (.inr (informed.leads run).1)
  · rcases sync_cases t.board with ⟨-, -, same⟩ | ⟨seen, same, looked⟩
    · rw [same, selected]
    · rw [looked] at listed ⊢
      have rows : seen.reconcile.rows = seen.rows :=
        congrArg (fun w => (w.1.data).getD []) (watch_reconcile seen)
      rw [rows] at listed
      exact selected_reconcile (same.trans selected) listed

/-- Of the tasks that are shown first the first one is selected. It stays selected when the next look
    shows another before it. -/
theorem first_task_stays_selected :
    let t := Shift.played [.tasks 1 5 (.ok (sampleTasks.drop 1)), .pass 5,
      .tasks 1 0 (.ok (sampleTasks.drop 1))]
    let t' := t.look.plays [.key (.char 'r'), .tasks 2 5 (.ok sampleTasks), .pass 5,
      .tasks 2 0 (.ok sampleTasks)]
    t.look.Informed ∧ ReflTransGen (Shift.During false) t.look t' ∧ t'.board.sync.1.Fits ∧
      t'.board.sync.1.rows = sampleTasks ∧ t'.board.sync.1.selected = some "ts_2" := by
  intro t t'
  have informed : t.look.Informed :=
    .looked (Shift.started_played _) (by decide +kernel) (by decide +kernel)
  have run : ReflTransGen (Shift.During false) t.look t' := Shift.during_plays (by decide +kernel)
  have rows : t'.board.sync.1.rows = sampleTasks := by decide +kernel
  have selected : t'.board.selected = some "ts_2" := by decide +kernel
  obtain ⟨-, fits, stays⟩ := selection_fits_after_look t'
  refine ⟨informed, run, fits _ informed run, rows, stays _ selected ?_⟩
  rw [rows]
  decide +kernel

/-- Updates were paused while the tasks were fetched for the first time. When they are resumed the tasks
    are shown at once, a look finds no change, and none of the tasks is selected. -/
theorem nothing_selected_after_resume :
    let t := Shift.played [.tasks 1 1003 (.ok sampleTasks), .key (.char 'p'), .pass 2000,
      .tasks 1 0 (.ok sampleTasks), .key (.char 'p')]
    t.Started ∧ t.board.paused = false ∧ t.board.sync.1.rows = sampleTasks ∧
      t.board.sync.1.selected = none ∧ ¬ t.board.sync.1.Fits := by
  intro t
  have rows : t.board.sync.1.rows = sampleTasks := by decide +kernel
  have selected : t.board.sync.1.selected = none := by decide +kernel
  have shown : t.board.sync.1.tasks.data = some sampleTasks := by decide +kernel
  refine ⟨Shift.started_played _, by decide +kernel, rows, selected, fun fits => ?_⟩
  rcases fits _ shown with ⟨task, -, same⟩ | ⟨empty, -⟩
  · simp [selected] at same
  · simp [sampleTasks] at empty

end TaskWatch
