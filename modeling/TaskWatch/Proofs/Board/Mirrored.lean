import TaskWatch.Proofs.Board.Orders
import TaskWatch.Proofs.Board.Paused
import TaskWatch.Proofs.Board.Steps

/-! A session is a shift.

    A session has a source of its own, does what is due in one order, and takes outcomes off the line in
    the order in which they were put there. A shift may do all of that. Its orders are then the
    outcomes in line, those that wait until the line has room, and the errands that were not run yet.
    That is kept by each step that the program takes (`Mirrored.progress`), and so by all that it does
    with a session once its board was started (`InUse`). So whatever holds of the board in every shift
    holds of it in every session in use. -/

namespace TaskWatch.Session

open Cache Board

variable {s : Session} {t : Shift}

/-- The shift has the same board at the same time, and the same requests are under way. -/
structure Mirrors (s : Session) (t : Shift) : Prop where
  board : t.board = s.board
  clock : t.now.elapsed = s.now
  orders : ∃ answered, t.orders.map (·.request) = answered ++ s.errands.map (·.request) ∧
    answered.length = s.line.length + s.waiting.length
  opened : s.closed = false

/-- The session can be taken for a shift of a board that was started. -/
def Mirrored (s : Session) : Prop := ∃ t : Shift, t.Started ∧ s.Mirrors t

/-- The moment at which something happens in the session is one that the shift can be at. -/
theorem Mirrored.at_instant (m : s.Mirrored) : ∃ t : Shift, t.Started ∧ s.Mirrors t ∧ t.now = s.instant := by
  obtain ⟨t, ht, board, clock, orders, opened⟩ := m
  have step : Shift.Step t { t with now := s.instant } := .pass s.instant (Nat.le_of_eq clock)
  exact ⟨_, ht.leads step.leads, ⟨board, rfl, orders, opened⟩, rfl⟩

/-- A step of the shift brings the board about that the session has next. -/
theorem Mirrored.withBoard {b : Board} (m : s.Mirrored)
    (step : ∀ t : Shift, t.board = s.board → t.now = s.instant → Shift.Step t (t.withBoard b)) :
    (s.withBoard b).Mirrored := by
  obtain ⟨t, ht, mirrors, now⟩ := m.at_instant
  exact ⟨_, ht.leads (step t mirrors.board now).leads, rfl, mirrors.clock, mirrors.orders,
    mirrors.opened⟩

theorem Mirrored.look (m : s.Mirrored) : (s.withBoard s.board.sync.1).Mirrored :=
  m.withBoard fun t board _ => by
    rw [← board]
    exact .look

theorem Mirrored.resize (m : s.Mirrored) : (s.handle .resize).1.Mirrored :=
  m.withBoard fun t board _ => by
    rw [← board]
    exact .resize

/-- A key makes an order of what it asks for, and an errand. -/
theorem Mirrored.key (m : s.Mirrored) (e : KeyEvent) : (s.handle (.key e)).1.Mirrored := by
  obtain ⟨t, ht, ⟨board, clock, ⟨answered, requests, length⟩, opened⟩, now⟩ := m.at_instant
  refine ⟨t.key e, ht.leads (Shift.Step.key e).leads, ?_⟩
  unfold Session.handle Session.react Shift.key
  rw [board, now]
  dsimp only
  cases (s.board.handle s.instant (.key e)).2 with
  | create r =>
    refine ⟨rfl, clock, ⟨answered, ?_, length⟩, opened⟩
    simp [Reaction.request?, requests, Session.withBoard]
  | none =>
    refine ⟨rfl, clock, ⟨answered, ?_, length⟩, opened⟩
    simp [Reaction.request?, requests, Session.withBoard]
  | quit =>
    refine ⟨rfl, clock, ⟨answered, ?_, length⟩, opened⟩
    simp [Reaction.request?, requests, Session.withBoard]

/-- The outcome that is first in line is that of the oldest order. -/
theorem Mirrored.take {outcome : Created} {rest : List Created} (m : s.Mirrored)
    (first : s.line = outcome :: rest) :
    ({ s with line := rest }.handle (.created outcome)).1.Mirrored := by
  obtain ⟨t, ht, ⟨board, clock, ⟨answered, requests, length⟩, opened⟩, now⟩ := m.at_instant
  rw [first, List.length_cons] at length
  obtain ⟨r, answered, rfl⟩ := List.exists_cons_of_length_eq_add_one
    (show answered.length = rest.length + s.waiting.length + 1 by omega)
  obtain ⟨o, orders, listed⟩ : ∃ o orders, t.orders = o :: orders := by
    cases listed : t.orders with
    | nil => simp [listed] at requests
    | cons o orders => exact ⟨o, orders, rfl⟩
  have step : Shift.Step t (t.settle 0 o outcome) := .settle 0 (by rw [listed]; rfl) outcome
  refine ⟨_, ht.leads step.leads, ?_, clock, ⟨answered, ?_, ?_⟩, opened⟩
  · show { (t.board.handle t.now (.created outcome)).1 with journal := [] } = _
    rw [board, now]
    rfl
  · rw [listed, List.map_cons, List.cons_append] at requests
    show (t.orders.eraseIdx 0).map _ = _
    rw [listed]
    exact (List.cons.inj requests).2
  · simp only [List.length_cons] at length
    show answered.length = rest.length + s.waiting.length
    omega

/-! ### Work, and time -/

/-- An outcome that is put in line, or left to wait, is that of the errand that was run. -/
theorem Mirrored.send {e : Errand} {errands : List Errand} (outcome : Created) (turn : Nat)
    (source : Source.Memory) (log : List (Nat × Log.Line)) (m : s.Mirrored)
    (first : s.errands = e :: errands) :
    (Session.send outcome { s with errands, source, turn, log }).Mirrored := by
  obtain ⟨t, ht, board, clock, ⟨answered, requests, length⟩, opened⟩ := m
  rw [first, List.map_cons] at requests
  have answered_next : ∃ more, t.orders.map (·.request) = more ++ errands.map (·.request) ∧
      more.length = s.line.length + s.waiting.length + 1 :=
    ⟨answered ++ [e.request], by simp [requests], by simp [length]⟩
  obtain ⟨more, requests, length⟩ := answered_next
  unfold Session.send
  rw [if_neg (by simp [opened])]
  -- Wherever the outcome is put, it comes after those that were there before.
  split
  all_goals
    refine ⟨t, ht, board, clock, ⟨more, requests, ?_⟩, opened⟩
    simp only [List.length_append, List.length_singleton]
    omega

theorem Mirrored.answered {e : Errand} {errands : List Errand} (answer : Except Source.Fault Task)
    (turn : Nat) (source : Source.Memory) (m : s.Mirrored) (first : s.errands = e :: errands) :
    (Session.answered answer { s with errands, source, turn }).Mirrored := by
  cases answer with
  | ok t => exact m.send _ turn source _ first
  | error fault => exact m.send _ turn source s.log first

/-- Work that is due is done by the shift too, except that an errand leaves the board alone. -/
theorem Mirrored.work {w : Work} (m : s.Mirrored) (due : s.Due w) : (s.run w).Mirrored := by
  cases w with
  | tasks j =>
    obtain ⟨t, ht, ⟨board, clock, orders, opened⟩, now⟩ := m.at_instant
    obtain ⟨listed, due⟩ := due
    rw [← board] at listed
    have step := Shift.Step.tasks tasksSupplier s.source listed (clock.symm ▸ due)
    refine ⟨_, ht.leads step.leads, ?_, clock, orders, opened⟩
    rw [board, now]
    rfl
  | metrics j =>
    obtain ⟨t, ht, ⟨board, clock, orders, opened⟩, now⟩ := m.at_instant
    obtain ⟨listed, due⟩ := due
    rw [← board] at listed
    have step := Shift.Step.metrics metricsSupplier s.source listed (clock.symm ▸ due)
    refine ⟨_, ht.leads step.leads, ?_, clock, orders, opened⟩
    rw [board, now]
    rfl
  | errand e =>
    obtain ⟨errands, listed⟩ := List.head?_eq_some_iff.mp due
    have dropped : s.errands.drop 1 = errands := by rw [listed]; rfl
    rw [Session.run, runErrand_eq, dropped]
    exact m.answered _ _ _ listed

theorem Mirrored.refill (m : s.Mirrored) : s.refill.Mirrored := by
  obtain ⟨t, ht, board, clock, ⟨answered, requests, length⟩, opened⟩ := m
  unfold Session.refill
  rw [if_neg (by simp [opened])]
  refine ⟨t, ht, board, clock, ⟨answered, requests, ?_⟩, opened⟩
  simp only [List.length_append, List.length_take, List.length_drop]
  omega

theorem Mirrored.pass {now : Nat} (m : s.Mirrored) (later : s.now ≤ now) :
    Mirrored { s with now } := by
  obtain ⟨t, ht, board, clock, orders, opened⟩ := m
  have step : Shift.Step t { t with now := { t.now with elapsed := now } } :=
    .pass _ (clock.symm ▸ later)
  exact ⟨_, ht.leads step.leads, board, rfl, orders, opened⟩

/-- The source may become another: what it answers is left open in a shift. -/
theorem Mirrored.source (m : s.Mirrored) (source : Source.Memory) : Mirrored { s with source } := by
  obtain ⟨t, ht, board, clock, orders, opened⟩ := m
  exact ⟨t, ht, board, clock, orders, opened⟩

/-! ### Sessions in use -/

/-- Each step that the program takes can be taken by the shift. -/
theorem Mirrored.progress {s' : Session} (m : s.Mirrored) (progress : Progress s s') :
    s'.Mirrored := by
  cases progress with
  | key e => exact m.key e
  | resize => exact m.resize
  | look => exact m.look
  | take first => exact m.take first
  | work due => exact m.work due
  | refill => exact m.refill
  | pass now later => exact m.pass later

theorem Mirrored.proceeds {s' : Session} (m : s.Mirrored) (run : s.Proceeds s') : s'.Mirrored := by
  induction run with
  | refl => exact m
  | tail _ progress ih => exact ih.progress progress

/-- A session whose board was just started. -/
def begun (grace : Nat) (tasksOptions metricsOptions : Options) (selected : Option String)
    (source : Source.Memory) (now : Nat) (origin : Time.Stamp) : Session :=
  let s := fresh grace tasksOptions metricsOptions selected source now origin
  s.withBoard (s.board.start s.instant)

/-- The board was started, and the session has been used since: by whatever the program does, and
    whatever became of its source meanwhile. -/
inductive InUse : Session → Prop
  | begun (grace : Nat) (tasksOptions metricsOptions : Options) (selected : Option String)
      (source : Source.Memory) (now : Nat) (origin : Time.Stamp) :
      InUse (begun grace tasksOptions metricsOptions selected source now origin)
  | operate {s : Session} (used : InUse s) (o : Operation) : InUse (s.operate o)
  | source {s : Session} (used : InUse s) (source : Source.Memory) : InUse { s with source }

/-- A session whose board was just started is a shift that has just begun. -/
theorem mirrored_begun (grace : Nat) (tasksOptions metricsOptions : Options) (selected : Option String)
    (source : Source.Memory) (now : Nat) (origin : Time.Stamp) :
    (begun grace tasksOptions metricsOptions selected source now origin).Mirrored :=
  ⟨.started grace tasksOptions metricsOptions selected (.after origin now 0),
    ⟨_, _, _, _, _, .refl⟩, rfl, rfl, ⟨[], rfl, rfl⟩, rfl⟩

/-- Every session in use can be taken for a shift. -/
theorem InUse.mirrored (used : s.InUse) : s.Mirrored := by
  induction used with
  | begun grace tasksOptions metricsOptions selected source now origin =>
    exact mirrored_begun grace tasksOptions metricsOptions selected source now origin
  | operate _ o ih => exact ih.proceeds (proceeds_operate _ o)
  | source _ source ih => exact ih.source source

/-- What holds of the board in every shift holds of it in every session in use. -/
theorem InUse.of_shifts {P : Board → Prop} (used : s.InUse)
    (holds : ∀ t : Shift, t.Started → P t.board) : P s.board := by
  obtain ⟨t, ht, mirrors⟩ := used.mirrored
  exact mirrors.board ▸ holds t ht

/-- A paused board holds no handle, and any other holds one on each query. -/
def HandlesFit (b : Board) : Prop :=
  (b.paused = true → b.tasks.handle = none ∧ b.metrics.handle = none) ∧
    (b.paused = false → b.tasks.isAttached = true ∧ b.metrics.isAttached = true)

theorem InUse.handlesFit (used : s.InUse) : HandlesFit s.board :=
  used.of_shifts fun _ ht => ⟨ht.linked.away, ht.linked.attached⟩

/-- In a session in use a form that is submitting has a request under way: an errand that was not run
    yet, or an outcome that was not handled. -/
theorem InUse.request_under_way (used : s.InUse) {e : Editor} (opened : s.board.form = some e)
    (submitting : e.submitting = true) : s.line ≠ [] ∨ s.waiting ≠ [] ∨ s.errands ≠ [] := by
  obtain ⟨t, ht, board, -, ⟨answered, requests, length⟩, -⟩ := used.mirrored
  have placed := ht.reachable.ledger.placed e (board ▸ opened) submitting
  refine Classical.byContradiction fun none => placed ?_
  obtain ⟨line, waiting, errands⟩ : s.line = [] ∧ s.waiting = [] ∧ s.errands = [] := by
    simpa using none
  rw [line, waiting] at length
  obtain rfl : answered = [] := List.length_eq_zero_iff.mp length
  rw [errands] at requests
  rw [List.map_eq_nil_iff.mp requests]
  rfl

end TaskWatch.Session
