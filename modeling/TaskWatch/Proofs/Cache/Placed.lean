import TaskWatch.Proofs.Cache.Fates

/-! The calls that producers get.

    The book says which jobs ran, and from what they were there to do it is read which fetches called
    their producers (`callsMade`). What producers are called in truth is seen by who supplies the data.
    A supplier that lists its calls (`Supplier.watched`) changes nothing of what a cache does, and from
    its list it shows what each job does to it: a job that is there to call a producer calls that one,
    once, and any other job calls none (`runJob_watched`).

    `Course.Placed` puts these lists together along a course. They always come to what the book says,
    so whatever is told of calls from the book holds of the calls that suppliers get. -/

namespace TaskWatch.Cache

variable {α : Type} {now : Time.Instant} {c : Cache α}

/-! ### Calls in the book -/

/-- The fetch that the job carries out, and the producer it calls for that or has called. -/
def Job.order? (j : Job) : Option (FetchId × Nat) :=
  match j.duty with
  | .call g producer => some ((j.key, g), producer)
  | .reply g producer _ => some ((j.key, g), producer)
  | _ => none

/-- The job is there to call this producer for the fetch. -/
def Job.Calls (j : Job) (f : FetchId) (producer : Nat) : Prop :=
  j.key = f.1 ∧ j.duty = .call f.2 producer

/-- The fetch that the deed makes a call for, and the producer that it calls. -/
def Deed.call? : Deed α → Option (FetchId × Nat)
  | .run j none => j.order?
  | _ => none

/-- The calls that were made, the latest first. -/
def callsMade (past : List (Note α)) : List (FetchId × Nat) := past.filterMap (fun n => n.deed.call?)

theorem Job.map_fst_order? (j : Job) : j.order?.map Prod.fst = j.fetch?.map Prod.fst := by
  unfold Job.order? Job.fetch?
  cases j.duty <;> rfl

/-- The calls that were made are those of the fetches that called. -/
theorem map_fst_callsMade (past : List (Note α)) : (callsMade past).map Prod.fst = called past := by
  rw [callsMade, called, List.map_filterMap]
  refine List.filterMap_congr fun n _ => ?_
  cases n.deed with
  | run j answer =>
    cases answer with
    | none => exact j.map_fst_order?
    | some a => rfl
  | _ => rfl

theorem callsMade_cons (n : Note α) (past : List (Note α)) :
    callsMade (n :: past) = n.deed.call?.toList ++ callsMade past := by
  rw [callsMade, List.filterMap_cons]
  cases n.deed.call? <;> rfl

/-! ### Calls as a supplier sees them -/

/-- The same supplier, with a list of the producers that were called, the latest first. -/
def Supplier.watched {σ : Type} (supplier : Supplier σ α) : Supplier (σ × List Nat) α where
  call producer s :=
    let (state, number, delay) := supplier.call producer s.1
    ((state, producer :: s.2), number, delay)
  reply producer call s := supplier.reply producer call s.1
  finish producer call s := (supplier.finish producer call s.1, s.2)

/-- The producer that a job with this duty is there to call. -/
def Duty.callee? : Duty → Option Nat
  | .call _ producer => some producer
  | _ => none

/-- To be watched changes nothing. A job that is there to call a producer calls that one, once, and any
    other job calls none. -/
theorem runJob_watched {σ : Type} (supplier : Supplier σ α) (state : σ) (seen : List Nat) (j : Job) :
    c.runJob supplier.watched now j (state, seen) =
      ((c.runJob supplier now j state).1, (c.runJob supplier now j state).2,
        j.duty.callee?.toList ++ seen) := by
  unfold runJob
  cases j.duty <;> rfl

theorem Job.callee?_of_calls {j : Job} {f : FetchId} {p : Nat} (h : j.Calls f p) :
    j.duty.callee? = some p := by
  rw [h.2, Duty.callee?]

theorem Job.callee?_of_idle {j : Job} (idle : ∀ f p, ¬ j.Calls f p) : j.duty.callee? = none := by
  cases duty : j.duty with
  | call g p => exact (idle (j.key, g) p ⟨rfl, duty⟩).elim
  | _ => rfl

/-- What is called in a run is what the book says of it. -/
theorem call?_run {σ : Type} (supplier : Supplier σ α) (state : σ) (j : Job) :
    j.duty.callee?.toList.map (fun p => (j.fetch?.map Prod.fst, p)) =
      (Deed.run j (supplier.answer? j state)).call?.toList.map (fun x => (some x.1, x.2)) := by
  unfold Duty.callee? Job.fetch? Supplier.answer? Deed.call? Job.order?
  cases duty : j.duty <;> simp [duty]

namespace Course

variable {w w' : Course α} {calls : List (Option FetchId × Nat)}

/-- On the way to the course these producers were called, the latest first, each for the fetch of the
    job that called it, if that was there for one. -/
inductive Placed : Course α → List (Option FetchId × Nat) → Prop
  | fresh (grace : Nat) (now : Time.Instant) : Placed (fresh grace now) []
  /-- A job runs, and its supplier is watched. -/
  | run {w : Course α} {calls : List (Option FetchId × Nat)} {σ : Type} {j : Job}
      (placed : Placed w calls) (supplier : Supplier σ α) (s : σ) (listed : j ∈ w.cache.agenda)
      (due : j.isDue w.now.elapsed = true) :
      Placed (w.after (.run j (supplier.answer? j s)) (w.cache.runJob supplier w.now j s).1)
        ((w.cache.runJob supplier.watched w.now j (s, [])).2.2.map
          (fun p => (j.fetch?.map Prod.fst, p)) ++ calls)
  /-- Nothing else has to do with a supplier. -/
  | other {w w' : Course α} {calls : List (Option FetchId × Nat)} (placed : Placed w calls)
      (step : Step w w')
      (idle : ∀ n, w'.past = n :: w.past → ∀ j answer, n.deed ≠ .run j answer) : Placed w' calls

/-- Along every way to a course its suppliers can be watched. -/
theorem Reachable.placed (hw : w.Reachable) : ∃ calls, w.Placed calls := by
  obtain ⟨grace, now, h⟩ := hw
  induction h with
  | refl => exact ⟨[], .fresh grace now⟩
  | @tail w w' before step ih =>
    obtain ⟨calls, placed⟩ := ih
    by_cases ran : ∃ n j answer, w'.past = n :: w.past ∧ n.deed = .run j answer
    · obtain ⟨n, j, answer, past, deed⟩ := ran
      obtain ⟨σ, supplier, s, listed, due, rfl⟩ := step.of_run past deed
      exact ⟨_, placed.run supplier s listed due⟩
    · exact ⟨calls, placed.other step fun n past j answer deed => ran ⟨n, j, answer, past, deed⟩⟩

/-- A deed that runs no job makes no call. -/
theorem call?_of_idle {deed : Deed α} (idle : ∀ j answer, deed ≠ .run j answer) :
    deed.call? = none := by
  cases deed with
  | run j answer => exact (idle j answer rfl).elim
  | _ => rfl

/-- Producers are called just as the book says. -/
theorem Placed.calls_eq (placed : w.Placed calls) :
    calls = (callsMade w.past).map (fun x => (some x.1, x.2)) := by
  induction placed with
  | fresh grace now => rfl
  | @run w calls σ j placed supplier s listed due ih =>
    rw [runJob_watched, List.append_nil, call?_run, ih, after, callsMade_cons, List.map_append]
  | @other w w' calls placed step idle ih =>
    rcases step.books with past | ⟨n, past⟩
    · rw [past, ih]
    · rw [past, callsMade_cons, call?_of_idle (idle n past), ih]
      rfl

/-- The fetches that producers were called for are those that called by the book. -/
theorem Placed.map_fst (placed : w.Placed calls) : calls.map Prod.fst = (called w.past).map some := by
  rw [placed.calls_eq, ← map_fst_callsMade, List.map_map, List.map_map]
  rfl

end Course

end TaskWatch.Cache
