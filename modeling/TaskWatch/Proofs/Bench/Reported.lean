import TaskWatch.Proofs.Bench.Passing
import TaskWatch.Proofs.Bench.Ran
import TaskWatch.Proofs.Cache.Counted

/-! What a run reports, event by event.

    A log tells in words what a cache reported, and queries that are displayed alike look alike there.
    Here the events themselves are listed with their moments, the earliest first: those of what users do,
    and those of the jobs that are run. `log_steps` says that the log is this list put into words. -/

namespace TaskWatch.Bench

open Cache

variable {α : Type} {b : Bench α}

/-- What is reported as a bench runs a job. -/
def tells : Bench α × Job → List (Nat × Event)
  | (b, j) => (b.cache.runJob supplier b.instant j b.producers).1.journal.reverse.map
      (fun e => (b.now, e))

/-- What is reported as jobs are run. -/
def reports (ran : List (Bench α × Job)) : List (Nat × Event) := ran.flatMap tells

/-- The moments at which fetches of a query are started. -/
def startsOf (k : Key) (events : List (Nat × Event)) : List Nat :=
  (events.filter (fun e => e.2.started?.any (fun f => f.1 == k))).map Prod.fst

/-- Events in the words of a log, the latest first. -/
def lines (events : List (Nat × Event)) : List (Nat × Log.Line) :=
  (events.map (fun e => (e.1, e.2.line))).reverse

theorem startsOf_append (k : Key) (events later : List (Nat × Event)) :
    startsOf k (events ++ later) = startsOf k events ++ startsOf k later := by
  rw [startsOf, List.filter_append, List.map_append]
  rfl

/-- If no fetch of the query is started, none is listed. -/
theorem startsOf_unstarted {k : Key} {events : List Event} (none : ∀ g, .started k g ∉ events)
    (moment : Nat) : startsOf k (events.map (fun e => (moment, e))) = [] := by
  refine List.map_eq_nil_iff.mpr (List.filter_eq_nil_iff.mpr ?_)
  rintro ⟨m, e⟩ listed started
  obtain ⟨e, reported, same⟩ := List.mem_map.mp listed
  obtain ⟨rfl, rfl⟩ := Prod.mk.inj same
  cases e with
  | started l g =>
    obtain rfl : l = k := by simpa [Event.started?] using started
    exact none g reported
  | _ => exact nomatch started

theorem reports_append (ran later : List (Bench α × Job)) :
    reports (ran ++ later) = reports ran ++ reports later :=
  List.flatMap_append

theorem lines_append (events later : List (Nat × Event)) :
    lines (events ++ later) = lines later ++ lines events := by
  simp [lines]

namespace Run

variable [BEq α]

omit [BEq α] in
/-- What the cache reports to a user who does something. -/
def hears (r : Run α) : Step α → List Event
  | .subscribe key producer options =>
    match r.bench.cache.subscribe r.bench.instant key producer options with
    | .ok (c, _) => c.journal
    | .error _ => []
  | .unsubscribe i =>
    (r.handle? i).elim [] fun h => (r.bench.cache.unsubscribe r.bench.instant h).journal
  | .refetch key =>
    match r.bench.cache.refetch r.bench.instant key with
    | .ok c => c.journal
    | .error _ => []
  | .invalidate key => (r.bench.cache.invalidate r.bench.instant key).1.journal
  | .clear => (r.bench.cache.clear r.bench.instant).journal
  | _ => []

omit [BEq α] in
/-- What is reported as a user does something, before any job is run. -/
def heard (r : Run α) (s : Step α) : List (Nat × Event) :=
  if r.bench.cache.abandoned then []
  else (r.hears s).reverse.map (fun e => (r.bench.now, e))

/-- What is reported during a step and, unless the next is to come first, after it. -/
def reported (r : Run α) (s : Step α) (hold : Bool) : List (Nat × Event) :=
  r.heard s ++ reports (r.ran s hold)

/-- What is reported in the course of several steps. -/
def reportedOver : Run α → List (Step α × Bool) → List (Nat × Event)
  | _, [] => []
  | r, (s, hold) :: rest => r.reported s hold ++ reportedOver (r.step s hold).1 rest

end Run

/-! ### The log -/

/-- The bench has run these jobs, and put on its log what was reported. -/
def Logs (b : Bench α) (ran : List (Bench α × Job)) (b' : Bench α) : Prop :=
  b'.log = lines (reports ran) ++ b.log

namespace Logs

variable {b' b'' : Bench α} {ran later : List (Bench α × Job)}

theorem refl (b : Bench α) : Logs b [] b := rfl

theorem trans (h : Logs b ran b') (h' : Logs b' later b'') : Logs b (ran ++ later) b'' := by
  rw [Logs, reports_append, lines_append, List.append_assoc, ← h]
  exact h'

theorem run (b : Bench α) (j : Job) : Logs b [(b, j)] (b.run j) := by
  have words : lines (tells (b, j)) =
      (b.cache.runJob supplier b.instant j b.producers).1.journal.map (fun e => (b.now, e.line)) := by
    rw [lines, tells, List.map_map, List.map_reverse, List.reverse_reverse]
    rfl
  rw [Logs, reports, List.flatMap_singleton, words]
  rfl

theorem runDue (fuel : Nat) (b : Bench α) : Logs b (b.ranDue fuel) (b.runDue fuel) := by
  induction fuel generalizing b with
  | zero => exact .refl b
  | succ fuel ih =>
    unfold Bench.runDue Bench.ranDue
    cases b.cache.agenda.next? b.now with
    | none => exact .refl b
    | some j => exact (run b j).trans (ih _)

theorem rest (b : Bench α) : Logs b b.ran b.rest := runDue _ b

/-- The clock of a bench does not show on its log. -/
theorem settle (b : Bench α) (now : Nat) :
    Logs b (b.ranAt now) (Time.Passing.settle now b) :=
  rest { b with now }

theorem advance (last now : Nat) (b : Bench α) :
    Logs b (Time.advanced ranAt last now b) (Time.advance last now b) := by
  fun_induction Time.advance last now b with
  | case1 now b asleep =>
    rw [Time.advanced.eq_def, asleep]
    exact .refl b
  | case2 now b d wakes due ih =>
    rw [Time.advanced.eq_def, wakes]
    simp only [due, and_self, dite_true]
    exact (settle b d).trans ih
  | case3 now b d wakes beyond =>
    rw [Time.advanced.eq_def, wakes]
    simp only [beyond, dite_false]
    exact .refl b

theorem sleep (b : Bench α) (ms : Nat) : Logs b (b.slept ms) (b.sleep ms) :=
  (rest b).trans (advance (b.now + ms) b.now b.rest)

theorem jump (b : Bench α) (ms : Nat) : Logs b (b.leapt ms) (b.jump ms) :=
  (settle b b.now).trans (settle _ (b.now + ms))

theorem await {β : Type} (seen : Bench α → Option β) (deadline now : Nat) (b : Bench α) :
    Logs b (Time.awaited ranAt seen deadline now b) (Time.await seen deadline now b).2.1 := by
  fun_induction Time.await seen deadline now b with
  | case1 now b r found =>
    rw [Time.awaited.eq_def, found]
    exact .refl b
  | case2 now b unseen asleep =>
    rw [Time.awaited.eq_def, unseen, asleep]
    exact .refl b
  | case3 now b unseen d wakes due ih =>
    rw [Time.awaited.eq_def, unseen, wakes]
    simp only [due, and_self, dite_true]
    exact (settle b d).trans ih
  | case4 now b unseen d wakes beyond =>
    rw [Time.awaited.eq_def, unseen, wakes]
    simp only [beyond, dite_false]
    exact .refl b

theorem awaits {β : Type} (seen : Bench α → Option β) (timeout : Nat) (b : Bench α) :
    Logs b (b.awaited seen timeout) (b.await seen timeout).1 := by
  unfold Bench.await Bench.awaited
  cases seen b with
  | some r => exact .refl b
  | none =>
    by_cases never : timeout = 0
    · simp only [never, Option.isSome_none, decide_true, Bool.or_true, if_true]
      exact .refl b
    · simp only [never, Option.isSome_none, decide_false, Bool.or_false, Bool.false_eq_true, if_false]
      exact (rest b).trans (await seen (b.now + timeout) b.now b.rest)

end Logs

/-- What is reported at once is put on the log first. -/
theorem log_withCache (b : Bench α) (c : Cache α) :
    (b.withCache c).log = lines (c.journal.reverse.map (fun e => (b.now, e))) ++ b.log := by
  rw [lines, List.map_map, List.map_reverse, List.reverse_reverse]
  rfl

namespace Run

variable {r : Run α}

/-- What a deed puts on the log, if there is a cache to do it with. -/
theorem log_onCache {f : Cache α → Run α × Outcome α} (events : List Event)
    (logs : (f r.bench.cache).1.bench.log =
      lines (events.reverse.map (fun e => (r.bench.now, e))) ++ r.bench.log) :
    (r.onCache f).1.bench.log = lines (if r.bench.cache.abandoned then [] else
      events.reverse.map (fun e => (r.bench.now, e))) ++ r.bench.log := by
  unfold onCache
  split
  · rfl
  · exact logs

theorem log_onHandle {i : Nat} {f : Handle → Run α × Outcome α}
    (same : ∀ h, (f h).1.bench.log = r.bench.log) : (r.onHandle i f).1.bench.log = r.bench.log :=
  onHandle_cases (P := fun done => done.1.bench.log = r.bench.log) rfl fun h _ => same h

theorem log_resolve {b : Bench α} (booked : b.cache.journal = []) (producer call : Nat)
    (r : Except String α) : (b.resolve producer call r).1.log = b.log := by
  unfold resolve
  split
  · rfl
  · dsimp only
    split
    · rfl
    · exact (log_withCache _ _).trans (by rw [booked]; rfl)

theorem log_abandon (booked : r.bench.cache.journal = []) :
    (r.bench.withCache (r.bench.cache.abandon r.bench.instant)).log = r.bench.log := by
  rw [log_withCache, abandon, dropEntries_eq, booked]
  rfl

variable [BEq α]

/-- What a step puts on the log. -/
theorem log_act (booked : r.bench.cache.journal = []) (s : Step α) :
    (r.act s).1.bench.log = lines (reports (r.ranDuring s)) ++ (lines (r.heard s) ++ r.bench.log) := by
  have silent (quiet : r.hears s = []) : r.heard s = [] := by
    rw [heard, quiet]
    exact ite_self []
  cases s with
  | subscribe key producer options =>
    refine log_onCache (r.hears (.subscribe key producer options)) ?_
    simp only [hears]
    cases r.bench.cache.subscribe r.bench.instant key producer options with
    | ok done => exact log_withCache r.bench done.1
    | error m => rfl
  | unsubscribe i =>
    rw [act, onHandle, heard]
    simp only [hears]
    cases r.handle? i with
    | none =>
      rw [show (none : Option Handle).elim [] _ = ([] : List Event) from rfl]
      exact (congrArg (lines · ++ r.bench.log) (ite_self [])).symm
    | some h =>
      dsimp only
      rw [show (r.setHandle i none).bench = r.bench from rfl]
      split
      · rfl
      · exact log_withCache r.bench _
  | refetch key =>
    refine log_onCache (r.hears (.refetch key)) ?_
    simp only [hears]
    cases r.bench.cache.refetch r.bench.instant key with
    | ok c => exact log_withCache r.bench c
    | error m => rfl
  | invalidate key => exact log_onCache _ (log_withCache r.bench _)
  | clear => exact log_onCache _ (log_withCache r.bench _)
  | changed i timeout =>
    rw [silent rfl, act, onHandle, ranDuring]
    cases r.handle? i with
    | none => rfl
    | some h =>
      have waits := Logs.awaits (fun b => h.change? b.cache) timeout r.bench
      dsimp only
      split <;> exact waits
  | waitFor i wish timeout =>
    rw [silent rfl, act, onHandle, ranDuring]
    cases r.handle? i with
    | none => rfl
    | some h => exact Logs.awaits (fun b => h.match? (fun e => wish.holds e) b.cache) timeout r.bench
  | sleep ms =>
    rw [silent rfl]
    exact Logs.sleep r.bench ms
  | jump ms =>
    rw [silent rfl]
    exact Logs.jump r.bench ms
  | resolve producer call result =>
    rw [silent rfl]
    exact log_resolve booked producer call result
  | abandon =>
    rw [silent rfl]
    exact log_abandon booked
  | current i =>
    rw [silent rfl]
    exact log_onHandle fun h => by split <;> rfl
  | latest i =>
    rw [silent rfl]
    exact log_onHandle fun h => by split <;> rfl
  | keyOf i =>
    rw [silent rfl]
    exact log_onHandle fun _ => rfl
  | entry key stale => exact log_onCache [] (by split <;> rfl)
  | hitRate => exact log_onCache [] rfl
  | grace => exact log_onCache [] rfl

theorem log_step (booked : r.bench.cache.journal = []) (s : Step α) (hold : Bool) :
    (r.step s hold).1.bench.log = lines (r.reported s hold) ++ r.bench.log := by
  have acted := log_act booked s
  rw [reported, ran, reports_append, lines_append, lines_append, List.append_assoc,
    List.append_assoc, ← acted]
  cases hold with
  | true => rfl
  | false => exact Logs.rest (r.act s).1.bench

/-- The log is what was reported, in words. -/
theorem log_steps (tracked : r.Tracked) (done : List (Step α × Bool)) :
    (r.steps done).bench.log = lines (r.reportedOver done) ++ r.bench.log := by
  induction done generalizing r with
  | nil => rfl
  | cons s rest ih =>
    obtain ⟨s, hold⟩ := s
    have first := log_step tracked.followed.booked s hold
    have later := ih (tracked.goesOn (goesOn_stepped r s hold))
    rw [reportedOver, lines_append, List.append_assoc, ← first]
    exact later

end Run

end TaskWatch.Bench
