import TaskWatch.Proofs.Board.Desk
import TaskWatch.Proofs.Board.Shift

/-! Moving the selection up and down is a walk along the rows.

    The board keeps the id of the selected task and no row, so each move looks the id up, takes a step
    and keeps the id that it finds there. If no two tasks that are shown have the same id, an id stands
    for the one row that it is found at, and many moves do to the row what they would do to a number
    that is kept between the first row and the last: `stride` is one such step. -/

namespace TaskWatch.Board

variable {b : Board} {now : Time.Instant} {i : Nat}

/-- Where a move goes. -/
inductive Direction where
  | up
  | down
  deriving DecidableEq

/-- The action that moves the selection so. -/
def Direction.action : Direction → Action
  | .up => .moveUp
  | .down => .moveDown

/-- A step along so many rows. From outside it leads to the first, whatever its direction. -/
def stride (rows : Nat) : Direction → Option Nat → Option Nat
  | _, none => if rows = 0 then none else some 0
  | .up, some i => some (i - 1)
  | .down, some i => some (min (i + 1) (rows - 1))

/-- The board after several moves, each made at its own moment. -/
def walk (b : Board) (path : List (Time.Instant × Direction)) : Board :=
  path.foldl (fun b move => (b.act move.1 move.2.action).1) b

/-! ### The selected row -/

/-- If ids are distinct, the selected row is that of the one task whose id is selected. -/
theorem selectedRow?_eq_some_iff (distinct : (b.rows.map (·.id)).Nodup) :
    b.selectedRow? = some i ↔ ∃ t, b.rows[i]? = some t ∧ b.selected = some t.id := by
  unfold selectedRow?
  cases b.selected with
  | none => simp
  | some id =>
    rw [Option.bind_some, List.findIdx?_eq_some_iff_getElem]
    constructor
    · rintro ⟨within, found, -⟩
      exact ⟨b.rows[i], List.getElem?_eq_getElem within, congrArg some (eq_of_beq found).symm⟩
    · rintro ⟨t, row, same⟩
      obtain ⟨within, rfl⟩ := List.getElem?_eq_some_iff.mp row
      obtain rfl := Option.some.inj same
      refine ⟨within, beq_self_eq_true _, fun j before found => ?_⟩
      -- A row above with the same id would be the same row.
      have above : j < b.rows.length := Nat.lt_trans before within
      have again : (b.rows.map (·.id))[j]? = (b.rows.map (·.id))[i]? := by
        simpa [above, within] using found
      exact Nat.ne_of_lt before ((List.getElem?_inj (by simpa using above) distinct).mp again)

theorem within_of_selectedRow? (row : b.selectedRow? = some i) : i < b.rows.length := by
  obtain ⟨id, -, found⟩ := Option.bind_eq_some_iff.mp row
  exact (List.findIdx?_eq_some_iff_getElem.mp found).1

/-- A row that is selected is the selected row. -/
theorem selectedRow?_selectRow (distinct : (b.rows.map (·.id)).Nodup) (within : i < b.rows.length) :
    (b.selectRow i).selectedRow? = some i := by
  have row : b.rows[i]? = some b.rows[i] := List.getElem?_eq_getElem within
  rw [selectRow_eq, row]
  exact (selectedRow?_eq_some_iff (b := { b with selected := some b.rows[i].id }) distinct).mpr
    ⟨b.rows[i], row, rfl⟩

/-- Where there are no rows, to select one changes nothing. -/
theorem selectRow_nowhere (empty : b.rows = []) : b.selectRow i = b := by
  unfold selectRow
  rw [empty, List.getElem?_nil]

/-! ### One move -/

/-- The row that a move selects. -/
def goal (b : Board) : Direction → Nat
  | .up => b.selectedRow?.elim 0 (· - 1)
  | .down => b.selectedRow?.elim 0 fun i => if i + 1 < b.rows.length then i + 1 else i

theorem act_direction (now : Time.Instant) (d : Direction) (b : Board) :
    b.act now d.action = (b.selectRow (b.goal d), .none) := by
  cases d <;> cases row : b.selectedRow? <;>
    simp [act, Direction.action, selectNext, selectPrevious, goal, row]

/-- Unless there are no rows, a move selects the row that the stride leads to. -/
theorem stride_goal (shown : b.rows ≠ []) (d : Direction) :
    b.goal d < b.rows.length ∧ stride b.rows.length d b.selectedRow? = some (b.goal d) := by
  have positive : 0 < b.rows.length := List.length_pos_iff.mpr shown
  cases row : b.selectedRow? with
  | none => cases d <;> simp [goal, stride, row, positive, shown]
  | some i =>
    have within : i < b.rows.length := within_of_selectedRow? row
    cases d with
    | up =>
      simp only [goal, stride, row, Option.elim_some, and_true]
      omega
    | down =>
      simp only [goal, stride, row, Option.elim_some, Option.some.injEq]
      split <;> omega

/-- A move takes the selected row one stride further. -/
theorem selectedRow?_selectRow_goal (distinct : (b.rows.map (·.id)).Nodup) (d : Direction) :
    (b.selectRow (b.goal d)).selectedRow? = stride b.rows.length d b.selectedRow? := by
  by_cases empty : b.rows = []
  · have outside : b.selectedRow? = none := by
      refine Option.eq_none_iff_forall_ne_some.mpr fun i row => ?_
      exact absurd (within_of_selectedRow? row) (by simp [empty])
    rw [selectRow_nowhere empty, outside]
    simp [stride, empty]
  · obtain ⟨within, goal⟩ := stride_goal empty d
    rw [goal]
    exact selectedRow?_selectRow distinct within

/-! ### Many moves -/

theorem walk_cons (move : Time.Instant × Direction) (rest : List (Time.Instant × Direction))
    (b : Board) : b.walk (move :: rest) = (b.selectRow (b.goal move.2)).walk rest := by
  rw [walk, List.foldl_cons, act_direction, ← walk]

theorem walk_eq (path : List (Time.Instant × Direction)) (b : Board) :
    b.walk path = { b with selected := (b.walk path).selected } := by
  induction path generalizing b with
  | nil => rfl
  | cons move rest ih =>
    rw [walk_cons]
    refine (ih _).trans ?_
    rw [selectRow_eq]

theorem walk_nowhere (empty : b.rows = []) (path : List (Time.Instant × Direction)) :
    b.walk path = b := by
  induction path with
  | nil => rfl
  | cons move rest ih => rw [walk_cons, selectRow_nowhere empty, ih]

/-- The row of a walk is the walk of the row. -/
theorem selectedRow?_walk (distinct : (b.rows.map (·.id)).Nodup)
    (path : List (Time.Instant × Direction)) :
    (b.walk path).selectedRow? =
      path.foldl (fun row move => stride b.rows.length move.2 row) b.selectedRow? := by
  induction path generalizing b with
  | nil => rfl
  | cons move rest ih =>
    have rows : (b.selectRow (b.goal move.2)).rows = b.rows := by
      rw [selectRow_eq]
      rfl
    rw [walk_cons, ih (rows ▸ distinct), rows, selectedRow?_selectRow_goal distinct, List.foldl_cons]

/-- On a board whose tasks have distinct ids the selection walks along the rows, whatever was selected
    before: from outside to the first row, then up or down by one, and never beyond the first or the
    last. Where nothing is shown the selection stays as it is. The selected task is the one in the
    selected row, and moving changes nothing on the board but the selection. -/
theorem selection_walks (b : Board) (distinct : (b.rows.map (·.id)).Nodup)
    (path : List (Time.Instant × Direction)) :
    (b.walk path).selectedRow? =
      path.foldl (fun row move => stride b.rows.length move.2 row) b.selectedRow? ∧
    (b.rows = [] → (b.walk path).selected = b.selected) ∧
    (∀ i, (b.walk path).selectedRow? = some i ↔
      ∃ t, b.rows[i]? = some t ∧ (b.walk path).selected = some t.id) ∧
    (∀ t, (b.walk path).selectedTask? = some t ↔
      ∃ i, (b.walk path).selectedRow? = some i ∧ b.rows[i]? = some t) ∧
    b.walk path = { b with selected := (b.walk path).selected } := by
  have rows : (b.walk path).rows = b.rows := by
    rw [walk_eq]
    rfl
  refine ⟨selectedRow?_walk distinct path, fun empty => ?_, fun i => ?_, fun t => ?_,
    walk_eq path b⟩
  · rw [walk_nowhere empty]
  · rw [selectedRow?_eq_some_iff (rows ▸ distinct), rows]
  · rw [selectedTask?, Option.bind_eq_some_iff, rows]

/-- Five tasks are shown and the selected one is gone. Up leads to the first task, five times down to the
    last, and up again to the one before it. -/
theorem back_from_the_last_row :
    let t := Shift.played [.tasks 1 5 (.ok sampleTasks), .pass 5, .tasks 1 0 (.ok sampleTasks), .look]
    let b := { t.board with selected := some "ts_6" }
    let path := [Direction.up, .down, .down, .down, .down, .down, .up].map (fun d => (t.now, d))
    (b.rows.map (·.id)).Nodup ∧ b.selectedRow? = none ∧ (b.walk path).selectedRow? = some 3 ∧
      (b.walk path).selected = some "ts_4" := by
  intro t b path
  have shown : b.rows = sampleTasks := by decide +kernel
  have distinct : (b.rows.map (·.id)).Nodup := by
    rw [shown]
    decide
  have outside : b.selectedRow? = none := by decide +kernel
  obtain ⟨walks, -, selects, -⟩ := selection_walks b distinct path
  have row : (b.walk path).selectedRow? = some 3 := by
    rw [walks, outside, shown]
    rfl
  obtain ⟨task, there, selected⟩ := (selects 3).mp row
  rw [shown] at there
  obtain rfl := Option.some.inj there
  exact ⟨distinct, outside, row, selected⟩

end TaskWatch.Board
