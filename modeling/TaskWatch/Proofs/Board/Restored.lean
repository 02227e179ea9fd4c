import TaskWatch.Proofs.Board.Saved
import TaskWatch.Proofs.Board.Selection

/-! The selection outlives the program.

    A save that succeeds leaves a file from which just what was saved is loaded. A board that is
    restored from it has nothing to show at first, and as long as that is so nothing moves the
    selection: keys move it to a task that is shown, and a look makes it fit only tasks that are known.
    The look that first shows tasks keeps it if its task is among them. -/

namespace TaskWatch

open Cache Board Files Relation

variable {t t' : Shift}

/-! ### The file -/

namespace Board.Saved

variable {s : Saved} {d d' : Disk} {p : Path} {content : ByteArray}

/-- An open way ends in a folder. -/
theorem folder_of_way {names q r : List String} (top : d.item? q = some .folder)
    (way : names.foldlM d.enter q = .ok r) : d.item? r = some .folder := by
  induction names generalizing q with
  | nil =>
    obtain rfl := Except.ok.inj way
    exact top
  | cons name names ih =>
    rw [List.foldlM_cons] at way
    obtain ⟨next, entered, way⟩ := Disk.bind_done way
    exact ih (Disk.enter_eq_ok.mp entered).2 way

/-- A file takes the place of a path only if that has a last name: without one the path leads to a
    folder, or nowhere. -/
theorem named_of_moved {d₁ d₂ : Disk} (written : d.write (staging p) content = .ok d₁)
    (moved : d₁.rename (staging p) p = .ok d₂) : ∃ name, p.name? = some name := by
  cases named : p.name? with
  | some name => exact ⟨name, rfl⟩
  | none =>
    exfalso
    have beside : (staging p).names = p.names ++ [".tmp"] := by rw [staging, Path.withEnding, named]
    have name : (staging p).name? = some ".tmp" := by rw [Path.name?, beside]; simp
    obtain ⟨q, led, free, rfl⟩ := Disk.write_done written
    obtain ⟨-, r, way⟩ := Disk.target_of_place name led
    obtain ⟨-, -, r', -, -, ending, led', other, -⟩ := Disk.rename_done moved
    rw [beside, List.dropLast_concat] at way
    have way := Disk.way_kept (Disk.foldersKept_put (i := .file content) free) way
    have folder := folder_of_way rfl way
    rw [Disk.place] at led'
    split at led'
    · cases led'
    · rename_i text
      rcases List.eq_nil_or_concat p.names with nothing | ⟨above, last, names⟩
      · exact text (by simp [Path.isBlank, nothing, ending])
      · rw [names, List.concat_eq_append] at led' way
        rw [(Disk.placeOf_eq led').1, ← Disk.way_eq way] at other
        exact other folder

/-- What was saved is loaded. -/
theorem load_save (done : s.save d p = (d', .ok ())) : load d' p = .ok (some s) := by
  have stop := stop_save s d p
  rw [done] at stop
  cases stop with
  | renamed _ written moved =>
    obtain ⟨name, named⟩ := named_of_moved written moved
    exact (load_moved named written moved).1

end Board.Saved

/-! ### The selection -/

namespace Board

variable {b : Board}

theorem selected_togglePause (now : Time.Instant) (b : Board) :
    (b.togglePause now).selected = b.selected := congrArg (·.1) (desk_togglePause now b)

/-- As long as the tasks are not known the selection may be any. -/
theorem reconcile_unknown (unknown : b.tasks.data = none) : b.reconcile = b := by
  rw [reconcile, unknown]
  rfl

/-- Once they are it is kept, if there is such a task, and goes to the first one otherwise. -/
structure Keeps (before : Option String) (ts : List Task) (after : Option String) : Prop where
  listed : (∃ task ∈ ts, before = some task.id) → after = before
  other : (∀ task ∈ ts, before ≠ some task.id) → after = ts.head?.map (·.id)

theorem keeps_reconcile {ts : List Task} (shown : b.tasks.data = some ts) :
    Keeps b.selected ts b.reconcile.selected := by
  refine ⟨fun ⟨task, listed, selected⟩ => ?_, fun other => ?_⟩
  · rw [selected]
    exact selected_reconcile selected ⟨task, rows_of_data shown ▸ listed, rfl⟩
  · rw [← rows_of_data shown, ← selectedRow?_eq_none] at other
    rw [reconcile, shown, other, rows_of_data shown]
    rfl

end Board

namespace Shift

/-- A board that was started after it was restored. -/
def restored (s : Saved) (grace : Nat) (tasksOptions metricsOptions : Options)
    (now : Time.Instant) : Shift :=
  let b := s.restore (Board.make grace tasksOptions metricsOptions)
  { now, board := b : Shift }.withBoard (b.start now)

/-- A step of a shift, or an outcome that is handled out of order. -/
inductive Occurs : Shift → Shift → Prop
  | step {t t' : Shift} (step : Step t t') : Occurs t t'
  | told {t : Shift} (outcome : Created) :
    Occurs t (t.withBoard (t.board.handle t.now (.created outcome)).1)

/-- No task data is shown. -/
def Unseen (t : Shift) : Prop := t.board.tasks.data = none

instance (t : Shift) : Decidable t.Unseen := inferInstanceAs (Decidable (t.board.tasks.data = none))

/-- Something occurs, and still no task data is shown. -/
def Awaits (t t' : Shift) : Prop := Occurs t t' ∧ t'.Unseen

theorem Occurs.stir (occurs : Occurs t t') : Stir t t' := by
  cases occurs with
  | step step => exact step.stir
  | told outcome => exact .deals rfl (deals_handle t.now (.created outcome) t.board) rfl

theorem unseen_restored (s : Saved) (grace : Nat) (tasksOptions metricsOptions : Options)
    (now : Time.Instant) : (restored s grace tasksOptions metricsOptions now).Unseen :=
  data_started grace tasksOptions metricsOptions s.selected now

/-- As long as no task data is shown nothing moves the selection. -/
theorem Stir.selected_unseen (stir : Stir t t') (unseen : t.Unseen) (unseen' : t'.Unseen) :
    t'.board.selected = t.board.selected := by
  cases stir with
  | @deals b now deals board =>
    rw [board]
    cases deals with
    | rests watch moves =>
      rcases moves with same | ⟨task, shown, -⟩
      · exact same
      · rw [rows, show t.board.tasks.data = none from unseen] at shown
        exact (List.not_mem_nil shown).elim
    | toggles => exact selected_togglePause t.now t.board
    | refreshes => exact congrArg (·.1) (desk_refresh t.now t.board)
    | stales watch selected => exact selected
  | looks now board =>
    rw [Unseen, board] at unseen'
    rw [board]
    rcases sync_cases t.board with ⟨-, -, same⟩ | ⟨seen, same, looked⟩
    · exact same
    · rw [looked] at unseen' ⊢
      have watched : seen.reconcile.tasks = seen.tasks := congrArg (·.1) (watch_reconcile seen)
      have unknown : seen.tasks.data = none := watched ▸ unseen'
      rw [reconcile_unknown unknown]
      exact same
  | tasks supplier state listed due now board => rw [board]; rfl
  | metrics supplier state listed due now board => rw [board]; rfl
  | passes later board => rw [board]

theorem awaits_plays {moves : List Move} (all : allAlong (fun t => decide t.Unseen) moves t = true) :
    ReflTransGen Awaits t (t.plays moves) :=
  (along_plays all).lift id fun _ _ step => ⟨.step step.1, of_decide_eq_true step.2⟩

theorem selected_awaiting (run : ReflTransGen Awaits t t') (unseen : t.Unseen) :
    t'.board.selected = t.board.selected ∧ t'.Unseen := by
  induction run with
  | refl => exact ⟨rfl, unseen⟩
  | tail _ step ih => exact ⟨(step.1.stir.selected_unseen ih.2 step.2).trans ih.1, step.2⟩

/-- The look that first shows tasks keeps the selection, if its task is among them. -/
theorem keeps_look {ts : List Task} (unseen : t.Unseen) (shown : t.look.board.tasks.data = some ts) :
    Keeps t.board.selected ts t.look.board.selected := by
  have shown : t.board.sync.1.tasks.data = some ts := shown
  show Keeps t.board.selected ts t.board.sync.1.selected
  rcases sync_cases t.board with ⟨-, same, -⟩ | ⟨seen, same, looked⟩
  · rw [same, show t.board.tasks.data = none from unseen] at shown
    cases shown
  · rw [looked] at shown ⊢
    have watched : seen.reconcile.tasks = seen.tasks := congrArg (·.1) (watch_reconcile seen)
    rw [← same]
    exact keeps_reconcile (watched ▸ shown)

/-- Unless updates are resumed, an event shows nothing new. -/
theorem data_deals {b b' : Board} {now : Time.Instant} (deals : Deals now b b')
    (running : b.paused = false) : b'.tasks.data = b.tasks.data := by
  cases deals with
  | rests watch moves => exact congrArg (·.1.data) watch
  | toggles =>
    have stopped := (watch_togglePause_running now running).trans (watch_stop now _)
    have left : (b.togglePause now).tasks = (b.tasks.detach now b.tasksCache).1 :=
      congrArg (·.1) stopped
    rw [left, Watcher.detach]
    split <;> rfl
  | refreshes => rw [(watchers_refresh now b).1]
  | stales watch selected => exact congrArg (·.1.data) watch

/-- As long as updates are not paused, only a look shows tasks. -/
theorem Occurs.look_of_shown (occurs : Occurs t t') (running : t.board.paused = false)
    (unseen : t.Unseen) (shown : ¬ t'.Unseen) : t' = t.look := by
  have nothing (h : Happening) : (t.board.handle t.now h).1.tasks.data = none :=
    (data_deals (deals_handle t.now h t.board) running).trans unseen
  cases occurs with
  | step step =>
    cases step with
    | look => rfl
    | key e => exact (shown (nothing (.key e))).elim
    | resize => exact (shown (nothing .resize)).elim
    | settle i out outcome => exact (shown (nothing (.created outcome))).elim
    | tasks supplier state listed due => exact (shown unseen).elim
    | metrics supplier state listed due => exact (shown unseen).elim
    | pass now later => exact (shown unseen).elim
  | told outcome => exact (shown (nothing (.created outcome))).elim

end Shift

/-- What is saved of a board is loaded from the file again, and a board that is restored from it and
    started keeps it. Whatever occurs, as long as no task data is shown, the same would be saved of that
    board. The look that first shows tasks keeps the selection if its task is among them, and selects
    the first one otherwise, or none of no tasks. Unless updates are paused it takes a look to show
    tasks. -/
theorem selection_survives_restart (b : Board) {d d' : Disk} {p : Path}
    (saved : (Saved.ofBoard b).save d p = (d', .ok ())) :
    Saved.load d' p = .ok (some (Saved.ofBoard b)) ∧
      ∀ (grace : Nat) (tasksOptions metricsOptions : Options) (now : Time.Instant) (t : Shift),
        ReflTransGen Shift.Awaits
          (.restored (Saved.ofBoard b) grace tasksOptions metricsOptions now) t →
        Saved.ofBoard t.board = Saved.ofBoard b ∧
        (∀ ts, t.look.board.tasks.data = some ts →
          Keeps b.selected ts t.look.board.selected) ∧
        ∀ t', t.board.paused = false → Shift.Occurs t t' → ¬ t'.Unseen → t' = t.look := by
  refine ⟨Saved.load_save saved, fun grace tasksOptions metricsOptions now t run => ?_⟩
  obtain ⟨selected, unseen⟩ := Shift.selected_awaiting run (Shift.unseen_restored ..)
  have begun : (Shift.restored (Saved.ofBoard b) grace tasksOptions metricsOptions now).board.selected =
      b.selected := congrArg (·.1) (desk_start now _)
  have same : t.board.selected = b.selected := selected.trans begun
  refine ⟨congrArg Saved.mk same, fun ts shown => ?_, fun t' running occurs shown => ?_⟩
  · exact same ▸ Shift.keeps_look unseen shown
  · exact occurs.look_of_shown running unseen shown

/-- The third task is selected and saved. In the next run the first fetch fails, and keys are pressed
    meanwhile. Then the tasks come without the first one, and the third is still selected. -/
theorem third_task_selected_again :
    let first := Shift.played [.tasks 1 5 (.ok sampleTasks), .pass 5, .tasks 1 0 (.ok sampleTasks),
      .look, .key (.char 'j'), .key (.char 'j')]
    let d : Disk := (Saved.save (Saved.ofBoard first.board) {} { names := ["a", "s"] }).1
    let moves : List Shift.Move := [.tasks 1 5 (.error "down"), .pass 5, .tasks 1 0 (.error "down"),
      .look, .key (.char 'j'), .key (.char 'r'), .tasks 2 5 (.ok (sampleTasks.drop 1)), .pass 5,
      .tasks 2 0 (.ok (sampleTasks.drop 1))]
    let t := (Shift.restored (Saved.ofBoard first.board) 300000 {} {} first.now).plays moves
    Saved.load d { names := ["a", "s"] } = .ok (some ⟨some "ts_3"⟩) ∧
      Saved.ofBoard t.board = ⟨some "ts_3"⟩ ∧
      t.look.board.tasks.data = some (sampleTasks.drop 1) ∧
      t.look.board.selected = some "ts_3" := by
  intro first d moves t
  have chosen : Saved.ofBoard first.board = ⟨some "ts_3"⟩ := by decide +kernel
  have ended : (Saved.save (Saved.ofBoard first.board) {} { names := ["a", "s"] }).2.isOk = true := by
    decide +kernel
  have saved : (Saved.ofBoard first.board).save {} { names := ["a", "s"] } = (d, .ok ()) := by
    refine Prod.ext rfl ?_
    revert ended
    cases (Saved.save (Saved.ofBoard first.board) {} { names := ["a", "s"] }).2 with
    | ok _ => exact fun _ => rfl
    | error _ => exact nofun
  obtain ⟨loaded, kept⟩ := selection_survives_restart first.board saved
  have run : ReflTransGen Shift.Awaits
      (.restored (Saved.ofBoard first.board) 300000 {} {} first.now) t :=
    Shift.awaits_plays (by decide +kernel)
  obtain ⟨same, look, -⟩ := kept 300000 {} {} first.now t run
  have shown : t.look.board.tasks.data = some (sampleTasks.drop 1) := by decide +kernel
  have selected : first.board.selected = some "ts_3" := congrArg Saved.selected chosen
  refine ⟨chosen ▸ loaded, same.trans chosen, shown, ?_⟩
  rw [(look _ shown).listed, selected]
  rw [selected]
  decide +kernel

end TaskWatch
