import TaskWatch.Board.Basic
import TaskWatch.Proofs.Cache.Course

/-! A board at work, whatever its source is like.

    A source answers what it likes, takes any time over it, and may never answer. So jobs that are due
    run in any order, each with an answer of its own, and the clock moves on as it likes. A fetch that
    was given up is not heard of again. A request for a task is an order from the moment at which it is
    made until its outcome is handled, and orders are settled in any order too. The forms that are
    opened are numbered, and an order carries the number of the form that it was made from: the
    outcome of a request does not, so the board cannot tell. -/

namespace TaskWatch

open Cache Board

/-- A request whose outcome was not handled yet, and the form that it was made from. -/
structure Board.Order where
  form : Nat
  request : Request
  deriving DecidableEq

/-- Of these orders the ones that were made from a form. -/
def Board.fromForm (n : Nat) (orders : List Order) : List Order := orders.filter (fun o => o.form == n)

/-- What is asked of the source. -/
def Board.Reaction.request? : Reaction → Option Request
  | .create r => some r
  | _ => Option.none

/-- A board at work. -/
structure Shift where
  now : Time.Instant
  board : Board
  /-- How many forms were opened. The one that was opened last has this number. -/
  forms : Nat := 0
  /-- The oldest first. -/
  orders : List Order := []
  /-- The forms that were told of the failure of an order of another form while they were submitting
      themselves. -/
  misled : List Nat := []

namespace Shift

/-- The number of the form that is open. -/
def open? (t : Shift) : Option Nat := t.board.form.map (fun _ => t.forms)

/-- The orders that were made from a form. -/
def ordersOf (n : Nat) (t : Shift) : List Order := fromForm n t.orders

/-- Takes over the board as it has become. What it reported is of no concern here. -/
def withBoard (b : Board) (t : Shift) : Shift := { t with board := { b with journal := [] } }

/-- The board looks at its queries. -/
def look (t : Shift) : Shift := t.withBoard t.board.sync.1

/-- A key is pressed. -/
def key (e : KeyEvent) (t : Shift) : Shift :=
  let (b, r) := t.board.handle t.now (.key e)
  { t.withBoard b with
    forms := if t.board.form.isNone && b.form.isSome then t.forms + 1 else t.forms
    orders := t.orders ++ (r.request?.map (fun request => { form := t.forms, request })).toList }

/-- The open form is submitting, and is about to be told of the failure of an order of another form. -/
def misleads (o : Order) (outcome : Created) (t : Shift) : Bool :=
  !outcome.isOk && o.form != t.forms && t.board.form.any (·.submitting)

/-- The outcome of the order in this place is handled. -/
def settle (i : Nat) (o : Order) (outcome : Created) (t : Shift) : Shift :=
  { t.withBoard (t.board.handle t.now (.created outcome)).1 with
    orders := t.orders.eraseIdx i
    misled := if t.misleads o outcome then t.forms :: t.misled else t.misled }

/-- A board before it is started, with a selection that may have been restored. -/
def fresh (grace : Nat) (tasksOptions metricsOptions : Options) (selected : Option String)
    (now : Time.Instant) : Shift :=
  { now, board := { Board.make grace tasksOptions metricsOptions with selected } }

/-- A board that was just started. -/
def started (grace : Nat) (tasksOptions metricsOptions : Options) (selected : Option String)
    (now : Time.Instant) : Shift :=
  let t := fresh grace tasksOptions metricsOptions selected now
  t.withBoard (t.board.start now)

/-! ### Steps -/

variable {t t' : Shift}

/-- One step of a shift. -/
inductive Step : Shift → Shift → Prop
  | look {t : Shift} : Step t t.look
  | key {t : Shift} (e : KeyEvent) : Step t (t.key e)
  | resize {t : Shift} : Step t (t.withBoard (t.board.handle t.now .resize).1)
  /-- The outcome of an order is handled, whatever it is. -/
  | settle {t : Shift} (i : Nat) {o : Order} (out : t.orders[i]? = some o) (outcome : Created) :
      Step t (t.settle i o outcome)
  /-- A job of the cache of tasks runs. -/
  | tasks {t : Shift} {σ : Type} (supplier : Supplier σ (List Task)) (state : σ) {j : Job}
      (listed : j ∈ t.board.tasksCache.agenda) (due : j.isDue t.now.elapsed = true) :
      Step t (t.withBoard
        (t.board.withTasks (t.board.tasksCache.runJob supplier t.now j state).1))
  /-- A job of the cache of headline numbers runs. -/
  | metrics {t : Shift} {σ : Type} (supplier : Supplier σ Metrics) (state : σ) {j : Job}
      (listed : j ∈ t.board.metricsCache.agenda) (due : j.isDue t.now.elapsed = true) :
      Step t (t.withBoard
        (t.board.withMetrics (t.board.metricsCache.runJob supplier t.now j state).1))
  /-- The clock moves on. -/
  | pass {t : Shift} (now : Time.Instant) (later : t.now.elapsed ≤ now.elapsed) :
      Step t { t with now }

/-- From the first shift steps can lead to the second. -/
def Leads : Shift → Shift → Prop := Relation.ReflTransGen Step

/-- A step after which updates are paused, or after which they are not. -/
def During (paused : Bool) (t t' : Shift) : Prop := Step t t' ∧ t'.board.paused = paused

/-- The shifts that steps can lead to once the board was started. -/
def Started (t : Shift) : Prop :=
  ∃ grace tasksOptions metricsOptions selected now,
    (started grace tasksOptions metricsOptions selected now).Leads t

/-- The shifts that steps can lead to, whether the board was started or not. -/
def Reachable (t : Shift) : Prop :=
  t.Started ∨ ∃ grace tasksOptions metricsOptions selected now,
    (fresh grace tasksOptions metricsOptions selected now).Leads t

theorem Step.leads (step : Step t t') : t.Leads t' := .single step

theorem Started.leads (ht : t.Started) (h : t.Leads t') : t'.Started := by
  obtain ⟨grace, tasksOptions, metricsOptions, selected, now, before⟩ := ht
  exact ⟨grace, tasksOptions, metricsOptions, selected, now, before.trans h⟩

theorem Started.reachable (ht : t.Started) : t.Reachable := .inl ht

/-! ### Shifts played out move by move -/

/-- A move that can be played, to see where it leads. -/
inductive Move where
  | look
  | key (code : KeyCode)
  /-- The outcome of the order in this place is handled. -/
  | settle (order : Nat) (outcome : Created)
  /-- A job of the cache of tasks runs, if it is due. A call that it makes takes so long, and is
      answered so. -/
  | tasks (job : Nat) (delay : Nat) (answer : Except String (List Task))
  /-- The same with the cache of headline numbers. -/
  | metrics (job : Nat) (delay : Nat) (answer : Except String Metrics)
  | pass (wait : Nat)

/-- A text is typed. -/
def typed (text : String) : List Move := text.toList.map (fun c => .key (.char c))

/-- The shift after a move; one that is not possible changes nothing. -/
def play (t : Shift) : Move → Shift
  | .look => t.look
  | .key code => t.key { code }
  | .settle i outcome =>
    match t.orders[i]? with
    | some o => t.settle i o outcome
    | none => t
  | .tasks number delay answer =>
    match t.board.tasksCache.agenda.find? number with
    | some j =>
      if j.isDue t.now.elapsed then
        t.withBoard (t.board.withTasks
          (t.board.tasksCache.runJob (.steady delay answer) t.now j ()).1)
      else t
    | none => t
  | .metrics number delay answer =>
    match t.board.metricsCache.agenda.find? number with
    | some j =>
      if j.isDue t.now.elapsed then
        t.withBoard (t.board.withMetrics
          (t.board.metricsCache.runJob (.steady delay answer) t.now j ()).1)
      else t
    | none => t
  | .pass wait => { t with now := { t.now with elapsed := t.now.elapsed + wait } }

/-- The shift after several moves. -/
def plays (t : Shift) (moves : List Move) : Shift := moves.foldl play t

/-- A move that changes something is a step. -/
theorem step_play (t : Shift) (m : Move) : t.play m = t ∨ Step t (t.play m) := by
  unfold play
  cases m with
  | look => exact .inr .look
  | key code => exact .inr (.key _)
  | settle i outcome =>
    dsimp only
    split
    · exact .inr (.settle i ‹_› outcome)
    · exact .inl rfl
  | tasks number delay answer =>
    dsimp only
    split
    · rename_i j found
      split
      · exact .inr (.tasks (.steady delay answer) () (List.mem_of_find?_eq_some found) ‹_›)
      · exact .inl rfl
    · exact .inl rfl
  | metrics number delay answer =>
    dsimp only
    split
    · rename_i j found
      split
      · exact .inr (.metrics (.steady delay answer) () (List.mem_of_find?_eq_some found) ‹_›)
      · exact .inl rfl
    · exact .inl rfl
  | pass wait => exact .inr (.pass _ (Nat.le_add_right _ wait))

/-- After each of the moves this is so. -/
def allAlong (P : Shift → Bool) : List Move → Shift → Bool
  | [], _ => true
  | m :: rest, t => P (t.play m) && allAlong P rest (t.play m)

theorem along_plays {P : Shift → Bool} : ∀ {moves : List Move} {t : Shift},
    allAlong P moves t = true →
      Relation.ReflTransGen (fun t t' => Step t t' ∧ P t' = true) t (t.plays moves)
  | [], _, _ => .refl
  | m :: rest, t, all => by
    obtain ⟨here, all⟩ := Bool.and_eq_true_iff.mp all
    have later := along_plays all
    rcases step_play t m with same | step
    · rw [same] at later
      rwa [plays, List.foldl_cons, same]
    · exact .head ⟨step, here⟩ later

/-- After each of the moves updates are paused, or after each they are not. -/
def allDuring (paused : Bool) : List Move → Shift → Bool
  | [], _ => true
  | m :: rest, t => (t.play m).board.paused == paused && allDuring paused rest (t.play m)

theorem allDuring_eq (paused : Bool) (moves : List Move) (t : Shift) :
    allDuring paused moves t = allAlong (fun t => t.board.paused == paused) moves t := by
  induction moves generalizing t with
  | nil => rfl
  | cons m rest ih => rw [allDuring, allAlong, ih]

theorem during_plays {paused : Bool} {moves : List Move} {t : Shift}
    (all : allDuring paused moves t = true) :
    Relation.ReflTransGen (During paused) t (t.plays moves) := by
  rw [allDuring_eq] at all
  exact (along_plays all).lift id fun _ _ step => ⟨step.1, eq_of_beq step.2⟩

theorem leads_plays : ∀ (moves : List Move) (t : Shift), t.Leads (t.plays moves)
  | [], _ => .refl
  | m :: rest, t => by
    have first : t.Leads (t.play m) := by
      rcases step_play t m with same | step
      · rw [same]
        exact .refl
      · exact step.leads
    exact first.trans (leads_plays rest (t.play m))

/-- The shift that moves lead to once a board was started that has never been used. -/
def played (moves : List Move) : Shift :=
  (started 300000 {} {} none { elapsed := 0, wall := Time.benchStart }).plays moves

/-- Whatever is played is a shift of a board that was started. -/
theorem started_played (moves : List Move) : (played moves).Started :=
  ⟨_, _, _, _, _, leads_plays moves _⟩

end Shift

end TaskWatch
