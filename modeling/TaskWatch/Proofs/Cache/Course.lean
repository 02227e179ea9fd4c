import Mathlib.Logic.Relation
import TaskWatch.Cache.Supply
import TaskWatch.Proofs.Cache.History

/-! The course of events around a cache.

    A course is a cache together with the clock, the handles that its users hold and a book of all
    that was done. A step is taken by a user, by a job that is due, by the clock, or by somebody
    outside who answers a call. Jobs that are due run in any order, answers take any time, and the
    clock moves on as it likes.

    Jobs take turns: while one does its step no other does anything, and a job that is given up does
    nothing more. So a timer that is set anew never ticks again, not even one that was due and had only
    to wait for its turn. Where several threads run at once, a timer that is given up while it waits for
    the cache may tick once more, and no course tells of that. A fetch is told of more freely: one that
    is given up may finish all the same.

    From the book the history of each query is read off: when its fetches were started, how they
    ended, and when its entry was invalidated or dropped. -/

namespace TaskWatch.Cache

variable {α : Type}

/-- Something that was done with a cache, or that a job of it did. -/
inductive Deed (α : Type) where
  | subscribe (key : Key) (producer : Nat) (options : Options)
  | unsubscribe (handle : Handle)
  | refetch (key : Key)
  | invalidate (key : Key)
  | clear
  | abandon
  /-- A job ran, and took this answer if it waited for one. -/
  | run (job : Job) (answer : Option (Except String α))
  /-- A fetch finished that had been given up. -/
  | straggle (key : Key) (generation : Nat) (answer : Except String α)

namespace Deed

/-- The answer that was taken. -/
def answer? : Deed α → Option (Except String α)
  | .run _ answer => answer
  | .straggle _ _ answer => some answer
  | _ => none

/-- The generation of the fetch that finished. -/
def settled? : Deed α → Option Nat
  | .run j (some _) => j.generation?
  | .straggle _ g _ => some g
  | _ => none

end Deed

/-- An entry of the book: what was done when, and what the cache reported, the latest first. -/
structure Note (α : Type) where
  moment : Time.Instant
  deed : Deed α
  events : List Event

/-- What a deed itself says about every query. Giving the cache up drops every entry too. -/
def Deed.sign? : Deed α → Option (Sign α)
  | .clear => some .cleared
  | .abandon => some .cleared
  | _ => none

/-- The signs of a query in an entry of the book. -/
def Note.signs (k : Key) (n : Note α) : History α :=
  n.deed.sign?.toList.map (fun s => (n.moment, s)) ++ Cache.signs n.moment k n.deed.answer? n.events

/-- A cache, its clock, the handles given out, and the book, the latest note first. -/
structure Course (α : Type) where
  now : Time.Instant
  cache : Cache α
  /-- Handles are numbered in the order in which they were given out; one given back leaves a gap. -/
  handles : List (Option Handle) := []
  past : List (Note α) := []

namespace Course

/-- The history of a query. -/
def history (w : Course α) (k : Key) : History α := w.past.flatMap (Note.signs k)

/-- The course once a deed has left the cache as it is now; what the cache reported is booked. -/
def after (w : Course α) (deed : Deed α) (c : Cache α) : Course α :=
  { w with cache := { c with journal := [] }, past := ⟨w.now, deed, c.journal⟩ :: w.past }

/-- A course at its beginning. -/
def fresh (grace : Nat) (now : Time.Instant) : Course α := { now, cache := { grace } }

end Course

/-! ### Steps -/

/-- The job waits for the answer to a call that was made. -/
def Job.isReply (j : Job) : Bool :=
  match j.duty with
  | .reply _ _ _ => true
  | _ => false

/-- The answer that a job takes from a supplier when it runs. -/
def Supplier.answer? {σ : Type} (supplier : Supplier σ α) (j : Job) (s : σ) :
    Option (Except String α) :=
  match j.duty with
  | .reply _ producer call => some (supplier.reply producer call s)
  | _ => none

/-- The agenda once the answers are there that some of the jobs wait for. -/
def Agenda.answered (now : Time.Instant) (waits : Job → Bool) (agenda : Agenda) : Agenda :=
  agenda.filter (fun j => !waits j) ++
    (agenda.filter waits).map (fun j => { j with due := some now.elapsed, turn := now.turn })

/-- One step of a course. -/
inductive Course.Step : Course α → Course α → Prop
  | subscribe {w : Course α} {c : Cache α} {h : Handle} (k : Key) (producer : Nat) (o : Options)
      (alive : w.cache.abandoned = false)
      (done : w.cache.subscribe w.now k producer o = .ok (c, h)) :
      Step w { w.after (.subscribe k producer o) c with handles := w.handles ++ [some h] }
  | unsubscribe {w : Course α} {h : Handle} (i : Nat) (alive : w.cache.abandoned = false)
      (held : w.handles[i]? = some (some h)) :
      Step w { w.after (.unsubscribe h) (w.cache.unsubscribe w.now h) with
        handles := w.handles.set i none }
  | refetch {w : Course α} {c : Cache α} (k : Key) (alive : w.cache.abandoned = false)
      (done : w.cache.refetch w.now k = .ok c) : Step w (w.after (.refetch k) c)
  | invalidate {w : Course α} (k : Key) (alive : w.cache.abandoned = false) :
      Step w (w.after (.invalidate k) (w.cache.invalidate w.now k).1)
  | clear {w : Course α} (alive : w.cache.abandoned = false) :
      Step w (w.after .clear (w.cache.clear w.now))
  | abandon {w : Course α} : Step w (w.after .abandon (w.cache.abandon w.now))
  | run {w : Course α} {σ : Type} (supplier : Supplier σ α) (s : σ) {j : Job}
      (listed : j ∈ w.cache.agenda) (due : j.isDue w.now.elapsed = true) :
      Step w (w.after (.run j (supplier.answer? j s)) (w.cache.runJob supplier w.now j s).1)
  /-- A fetch that was given up while it was about to finish finishes all the same. -/
  | straggle {w : Course α} (k : Key) (g : Nat) (answer : Except String α)
      (started : g ∈ (w.history k).started)
      (given_up : ∀ j ∈ w.cache.agenda, j.generation? ≠ some g)
      (unsettled : ∀ n ∈ w.past, n.deed.settled? ≠ some g) :
      Step w (w.after (.straggle k g answer) (w.cache.settle w.now k g answer))
  /-- Calls are answered that wait for somebody to answer them. -/
  | answer {w : Course α} (waits : Job → Bool) (calls : ∀ j, waits j = true → j.isReply = true) :
      Step w { w with cache :=
        { w.cache with agenda := Agenda.answered w.now waits w.cache.agenda } }
  /-- The clock moves on. -/
  | pass {w : Course α} (now : Time.Instant) (later : w.now.elapsed ≤ now.elapsed) :
      Step w { w with now }
  /-- The holder of a handle looks at the entry. -/
  | look {w : Course α} {h : Handle} (i : Nat) (held : w.handles[i]? = some (some h)) :
      Step w { w with handles := w.handles.set i (some (h.caughtUp w.cache)) }
  /-- A handle is given back when the cache is gone. -/
  | forget {w : Course α} (i : Nat) (gone : w.cache.abandoned = true) :
      Step w { w with handles := w.handles.set i none }

/-- From the first course events can lead to the second. -/
def Course.Leads : Course α → Course α → Prop := Relation.ReflTransGen Course.Step

/-- The courses that events can lead to from the beginning. -/
def Course.Reachable (w : Course α) : Prop := ∃ grace now, (Course.fresh grace now).Leads w

theorem Course.Reachable.leads {w w' : Course α} (hw : w.Reachable) (h : w.Leads w') :
    w'.Reachable := by
  obtain ⟨grace, now, before⟩ := hw
  exact ⟨grace, now, before.trans h⟩

/-! ### Which step it was -/

/-- A step that books a handle given back is one that gives it back. -/
theorem Course.Step.of_unsubscribe {w w' : Course α} {n : Note α} {h : Handle} (step : Step w w')
    (past : w'.past = n :: w.past) (deed : n.deed = .unsubscribe h) :
    ∃ i, w.cache.abandoned = false ∧ w.handles[i]? = some (some h) ∧
      w' = { w.after (.unsubscribe h) (w.cache.unsubscribe w.now h) with
        handles := w.handles.set i none } := by
  cases step with
  | @unsubscribe h' i alive held =>
    obtain rfl := (List.cons.inj past).1
    obtain rfl := Deed.unsubscribe.inj deed
    exact ⟨i, alive, held, rfl⟩
  | answer waits calls => exact (List.cons_ne_self _ _ past.symm).elim
  | pass now later => exact (List.cons_ne_self _ _ past.symm).elim
  | look i held => exact (List.cons_ne_self _ _ past.symm).elim
  | forget i gone => exact (List.cons_ne_self _ _ past.symm).elim
  | _ =>
    obtain rfl := (List.cons.inj past).1
    exact nomatch deed

/-- A step that books a job runs it. -/
theorem Course.Step.of_run {w w' : Course α} {n : Note α} {j : Job}
    {answer : Option (Except String α)} (step : Step w w') (past : w'.past = n :: w.past)
    (deed : n.deed = .run j answer) :
    ∃ (σ : Type) (supplier : Supplier σ α) (s : σ), j ∈ w.cache.agenda ∧
      j.isDue w.now.elapsed = true ∧
      w' = w.after (.run j (supplier.answer? j s)) (w.cache.runJob supplier w.now j s).1 := by
  cases step with
  | @run σ supplier s i listed due =>
    obtain rfl := (List.cons.inj past).1
    obtain ⟨rfl, -⟩ := Deed.run.inj deed
    exact ⟨σ, supplier, s, listed, due, rfl⟩
  | answer waits calls => exact (List.cons_ne_self _ _ past.symm).elim
  | pass now later => exact (List.cons_ne_self _ _ past.symm).elim
  | look i held => exact (List.cons_ne_self _ _ past.symm).elim
  | forget i gone => exact (List.cons_ne_self _ _ past.symm).elim
  | _ =>
    obtain rfl := (List.cons.inj past).1
    exact nomatch deed

/-! ### Courses played out move by move -/

/-- A move that can be played, to see where it leads. -/
inductive Move (α : Type) where
  | subscribe (key : Key) (producer : Nat) (options : Options)
  /-- The handle with this number is given back. -/
  | unsubscribe (handle : Nat)
  | refetch (key : Key)
  | invalidate (key : Key)
  | clear
  /-- A job runs, if it is due. A call that it makes takes so long, and is answered so. -/
  | run (job : Nat) (delay : Nat) (answer : Except String α)
  | pass (wait : Nat)

/-- A supplier whose calls all take the same time and get the same answer. -/
def Supplier.steady (delay : Nat) (answer : Except String α) : Supplier Unit α where
  call _ s := (s, 0, some delay)
  reply _ _ _ := answer
  finish _ _ s := s

namespace Course

/-- The course after a move; one that is not possible changes nothing. -/
def play (w : Course α) (m : Move α) : Course α :=
  if w.cache.abandoned then w else
  match m with
  | .subscribe k producer o =>
    match w.cache.subscribe w.now k producer o with
    | .ok (c, h) => { w.after (.subscribe k producer o) c with handles := w.handles ++ [some h] }
    | .error _ => w
  | .unsubscribe i =>
    match w.handles[i]? with
    | some (some h) =>
      { w.after (.unsubscribe h) (w.cache.unsubscribe w.now h) with
        handles := w.handles.set i none }
    | _ => w
  | .refetch k =>
    match w.cache.refetch w.now k with
    | .ok c => w.after (.refetch k) c
    | .error _ => w
  | .invalidate k => w.after (.invalidate k) (w.cache.invalidate w.now k).1
  | .clear => w.after .clear (w.cache.clear w.now)
  | .run number delay answer =>
    match w.cache.agenda.find? number with
    | some j =>
      let supplier := Supplier.steady delay answer
      if j.isDue w.now.elapsed then
        w.after (.run j (supplier.answer? j ())) (w.cache.runJob supplier w.now j ()).1
      else w
    | none => w
  | .pass wait => { w with now := { w.now with elapsed := w.now.elapsed + wait } }

/-- The course after several moves. -/
def plays (w : Course α) (moves : List (Move α)) : Course α := moves.foldl play w

/-- A move that changes something is a step. -/
theorem step_play (w : Course α) (m : Move α) : w.play m = w ∨ Step w (w.play m) := by
  unfold play
  split
  · exact .inl rfl
  · rename_i alive
    have alive : w.cache.abandoned = false := Bool.eq_false_iff.mpr alive
    cases m with
    | subscribe k producer o =>
      dsimp only
      split
      · exact .inr (.subscribe k producer o alive ‹_›)
      · exact .inl rfl
    | unsubscribe i =>
      dsimp only
      split
      · exact .inr (.unsubscribe i alive ‹_›)
      · exact .inl rfl
    | refetch k =>
      dsimp only
      split
      · exact .inr (.refetch k alive ‹_›)
      · exact .inl rfl
    | invalidate k => exact .inr (.invalidate k alive)
    | clear => exact .inr (.clear alive)
    | run number delay answer =>
      dsimp only
      split
      · rename_i j found
        split
        · exact .inr (.run (.steady delay answer) () (List.mem_of_find?_eq_some found) ‹_›)
        · exact .inl rfl
      · exact .inl rfl
    | pass wait => exact .inr (.pass _ (Nat.le_add_right _ wait))

theorem leads_play (w : Course α) (m : Move α) : w.Leads (w.play m) := by
  rcases step_play w m with same | step
  · rw [same]
    exact .refl
  · exact .single step

theorem leads_plays : ∀ (moves : List (Move α)) (w : Course α), w.Leads (w.plays moves)
  | [], _ => .refl
  | m :: rest, w => (leads_play w m).trans (leads_plays rest (w.play m))

/-- The course that moves lead to from the beginning, with a grace period of so long. -/
def played (grace : Nat) (moves : List (Move α)) : Course α :=
  (fresh grace { elapsed := 0, wall := Time.benchStart }).plays moves

/-- Whatever is played from the beginning is reachable. -/
theorem reachable_played (grace : Nat) (moves : List (Move α)) : (played grace moves).Reachable :=
  ⟨grace, _, leads_plays moves _⟩

end Course

end TaskWatch.Cache
