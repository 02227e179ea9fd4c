import TaskWatch.Bench.Run
import TaskWatch.Proofs.Cache.Punctual
import TaskWatch.Proofs.Cache.Work
import TaskWatch.Proofs.Time.Passing

/-! Runs of a bench are punctual courses.

    A course can follow a bench wherever it goes: before each deed it lets its clock show what the
    bench shows, and then takes the same step. So whatever holds in every reachable course holds of
    every cache that a run comes to, whatever its producers answer and however long they take. A
    bench that has come to rest has nothing left that is due, and only then its clock moves on, so
    the courses that follow are punctual. -/

namespace TaskWatch.Bench

open Cache Relation

variable {α : Type} {b b' b'' : Bench α} {w : Course α}

/-- The course has come to where the bench is. -/
structure Follows (w : Course α) (b : Bench α) : Prop where
  booked : w.Booked
  cache : w.cache = b.cache
  now : w.now.elapsed = b.now

/-- A punctual course that has come to where the first bench is can follow it to the second, and all
    handles are kept. -/
def Goes (b b' : Bench α) : Prop :=
  ∀ w : Course α, w.Punctual → Follows w b →
    ∃ w', ReflTransGen Course.Timely w w' ∧ Follows w' b' ∧ w'.handles = w.handles

/-- No job is due. -/
def Idle (b : Bench α) : Prop := ∀ j ∈ b.cache.agenda, j.isDue b.now = false

/-- So it can, and there the bench has come to rest. -/
def Rests (b b' : Bench α) : Prop :=
  ∀ w : Course α, w.Punctual → Follows w b →
    ∃ w', ReflTransGen Course.Timely w w' ∧ Follows w' b' ∧ w'.handles = w.handles ∧ b'.Idle

theorem Goes.refl (b : Bench α) : Goes b b := fun w _ h => ⟨w, .refl, h, rfl⟩

theorem Goes.trans (h : Goes b b') (h' : Goes b' b'') : Goes b b'' := by
  intro w hw follows
  obtain ⟨w', run, follows', handles⟩ := h w hw follows
  obtain ⟨w'', run', follows'', handles'⟩ := h' w' (hw.trans run) follows'
  exact ⟨w'', run.trans run', follows'', handles'.trans handles⟩

theorem Goes.rests (h : Goes b b') (h' : Rests b' b'') : Rests b b'' := by
  intro w hw follows
  obtain ⟨w', run, follows', handles⟩ := h w hw follows
  obtain ⟨w'', run', follows'', handles', idle⟩ := h' w' (hw.trans run) follows'
  exact ⟨w'', run.trans run', follows'', handles'.trans handles, idle⟩

theorem Rests.goes (h : Rests b b') : Goes b b' := by
  intro w hw follows
  obtain ⟨w', run, follows', handles, -⟩ := h w hw follows
  exact ⟨w', run, follows', handles⟩

theorem Follows.rested (h : Follows w b) (idle : b.Idle) : w.Rested := by
  intro j listed _
  rw [h.cache] at listed
  rw [h.now]
  exact idle j listed

/-- The course that shows the time of the bench. -/
def atInstant (w : Course α) (b : Bench α) : Course α := { w with now := b.instant }

theorem Follows.timely (h : Follows w b) : Course.Timely w (atInstant w b) :=
  ⟨.pass b.instant (Nat.le_of_eq h.now), .inl h.now.symm⟩

theorem Follows.atInstant (h : Follows w b) : Follows (Bench.atInstant w b) b :=
  ⟨h.booked, h.cache, rfl⟩

/-- A deed that the course does too leads it to where the bench is then. -/
theorem Follows.after {deed : Deed α} {c : Cache α} (cache : b'.cache = { c with journal := [] })
    (now : b'.now = b.now) : Follows ((Bench.atInstant w b).after deed c) b' :=
  ⟨rfl, cache.symm, now.symm⟩

/-! ### Jobs and time -/

/-- Once nothing is due, the clock of the bench moves on. -/
theorem Rests.goes_clock (h : Rests b b') {now : Nat} (later : b'.now ≤ now) :
    Goes b { b' with now } := by
  intro w hw follows
  obtain ⟨w', run, follows', handles, idle⟩ := h w hw follows
  have pass : Course.Timely w' { w' with now := { w'.now with elapsed := now } } :=
    ⟨.pass _ (follows'.now.symm ▸ later), .inr (follows'.rested idle)⟩
  exact ⟨_, run.tail pass, ⟨follows'.booked, follows'.cache, rfl⟩, handles⟩

/-- The course runs the job that the bench runs. -/
theorem Follows.run {j : Job} (h : Follows w b) (listed : j ∈ b.cache.agenda)
    (due : j.isDue b.now = true) :
    ∃ w', ReflTransGen Course.Timely w w' ∧ Follows w' (b.run j) ∧ w'.handles = w.handles := by
  have step := Course.Step.run (w := Bench.atInstant w b) (supplier (α := α)) b.producers
    (h.atInstant.cache ▸ listed) due
  rw [h.atInstant.cache] at step
  exact ⟨_, .tail (.single h.timely) ⟨step, .inl rfl⟩, Follows.after rfl rfl, rfl⟩

/-- With every job that the bench runs there is less to be done. -/
theorem Follows.work_run {j : Job} (h : Follows w b) (hw : w.Reachable)
    (listed : j ∈ b.cache.agenda) (due : j.isDue b.now = true) :
    (b.run j).cache.agenda.work b.now < b.cache.agenda.work b.now := by
  have hw' : (Bench.atInstant w b).Reachable := hw.leads (.single h.timely.step)
  have less := hw'.work_runJob (supplier (α := α)) b.producers (h.atInstant.cache ▸ listed) due
  rwa [h.atInstant.cache] at less

theorem now_runDue (fuel : Nat) (b : Bench α) : (b.runDue fuel).now = b.now := by
  induction fuel generalizing b with
  | zero => rfl
  | succ fuel ih =>
    unfold runDue
    split
    · rfl
    · exact ih _

/-- Jobs are run until none is due, if as many may be run as there is work. -/
theorem Follows.runDue (fuel : Nat) (h : Follows w b) (hw : w.Punctual)
    (enough : b.cache.agenda.work b.now ≤ fuel) :
    ∃ w', ReflTransGen Course.Timely w w' ∧ Follows w' (b.runDue fuel) ∧
      w'.handles = w.handles ∧ (b.runDue fuel).Idle := by
  induction fuel generalizing w b with
  | zero =>
    refine ⟨w, .refl, h, rfl, fun j listed => Bool.eq_false_iff.mpr fun due => ?_⟩
    exact Nat.not_lt_of_le enough (Agenda.work_pos listed due)
  | succ fuel ih =>
    unfold Bench.runDue
    split
    · rename_i asleep
      exact ⟨w, .refl, h, rfl, fun j listed => Agenda.next?_none asleep listed⟩
    · rename_i j next
      obtain ⟨listed, due⟩ := Agenda.next?_due next
      obtain ⟨w', run, h', handles⟩ := h.run listed due
      have less := h.work_run hw.reachable listed due
      have enough' : (b.run j).cache.agenda.work (b.run j).now ≤ fuel := by
        rw [show (b.run j).now = b.now from rfl]
        omega
      obtain ⟨w'', run', h'', handles', idle⟩ := ih h' (hw.trans run) enough'
      exact ⟨w'', run.trans run', h'', handles'.trans handles, idle⟩

/-- A bench comes to rest. -/
theorem rests_rest (b : Bench α) : Rests b b.rest :=
  fun _ hw h => h.runDue _ hw (Agenda.work_le _ _)

theorem now_rest (b : Bench α) : b.rest.now = b.now := now_runDue _ b

/-- What is due at a later moment is done then. -/
theorem Rests.settle (h : Rests b b') {now : Nat} (later : b'.now ≤ now) :
    Rests b (Time.Passing.settle now b') ∧ (Time.Passing.settle now b' : Bench α).now = now :=
  ⟨(h.goes_clock later).rests (rests_rest _), now_rest _⟩

/-- A course can follow as time passes. -/
theorem kept_rests (b : Bench α) : Time.Kept (fun now b' => Rests b b' ∧ b'.now = now) := by
  rintro _ later b' within ⟨rests, rfl⟩
  exact rests.settle within

theorem goes_sleep (b : Bench α) (ms : Nat) : Goes b (b.sleep ms) := by
  obtain ⟨_, within, rests, rfl⟩ :=
    (kept_rests b).advance ⟨rests_rest b, now_rest b⟩ (Nat.le_add_right b.now ms)
  exact rests.goes_clock within

theorem goes_jump (b : Bench α) (ms : Nat) : Goes b (b.jump ms) := by
  have settled : Rests b (Time.Passing.settle b.now b) := rests_rest b
  have later : (Time.Passing.settle b.now b : Bench α).now ≤ b.now + ms := by
    rw [show (Time.Passing.settle b.now b : Bench α) = b.rest from rfl, now_rest]
    exact Nat.le_add_right _ _
  exact (settled.settle later).1.goes

theorem goes_await {β : Type} (seen : Bench α → Option β) (timeout : Nat) (b : Bench α) :
    Goes b (b.await seen timeout).1 := by
  unfold await
  split
  · exact .refl b
  · split
    · exact .refl b
    · obtain ⟨_, within, rests, rfl⟩ :=
        (kept_rests b).await seen ⟨rests_rest b, now_rest b⟩ (Nat.le_add_right b.now timeout)
      exact rests.goes_clock within

/-- The job waits for the answer to the given call. -/
def waitsFor (producer call : Nat) (j : Job) : Bool :=
  match j.duty with
  | .reply _ i k => i == producer && k == call
  | _ => false

theorem isReply_of_waitsFor {producer call : Nat} {j : Job}
    (waits : waitsFor producer call j = true) : j.isReply = true := by
  unfold Job.isReply
  cases duty : j.duty with
  | reply g i k => rfl
  | _ => simp [waitsFor, duty] at waits

/-- Somebody outside answers a call. -/
theorem goes_resolve (b : Bench α) (producer call : Nat) (r : Except String α) :
    Goes b (b.resolve producer call r).1 := by
  unfold resolve
  split
  · exact .refl b
  · dsimp only
    split
    · exact .refl b
    · intro w _ h
      have h' := h.atInstant
      have answer := Course.Step.answer (w := atInstant w b) (waitsFor producer call)
        fun _ => isReply_of_waitsFor
      have journal : b.cache.journal = [] := h'.cache ▸ h'.booked
      refine ⟨_, .tail (.single h.timely) ⟨answer, .inl rfl⟩, ⟨h'.booked, ?_, rfl⟩, rfl⟩
      rw [h'.cache]
      simp only [withCache, setProducer]
      rw [← journal]
      rfl

/-! ### Runs -/

/-- The course has come to where the run is, and its users hold the same handles. -/
structure Tracks (w : Course α) (r : Run α) : Prop extends Follows w r.bench where
  handles : w.handles = r.handles

namespace Run

variable {r r' : Run α}

/-- A punctual course that has come to where the first run is can go on to where the second is. -/
def GoesOn (r r' : Run α) : Prop :=
  ∀ w : Course α, w.Punctual → Tracks w r →
    ∃ w', ReflTransGen Course.Timely w w' ∧ Tracks w' r'

theorem GoesOn.refl (r : Run α) : GoesOn r r := fun w _ h => ⟨w, .refl, h⟩

/-- Whatever the bench does by itself leaves the handles alone. -/
theorem goesOn_bench (goes : Goes r.bench b') : GoesOn r { r with bench := b' } := by
  intro w hw h
  obtain ⟨w', run, follows, handles⟩ := goes w hw h.toFollows
  exact ⟨w', run, ⟨follows, handles.trans h.handles⟩⟩

theorem GoesOn.trans {r'' : Run α} (h : GoesOn r r') (h' : GoesOn r' r'') : GoesOn r r'' := by
  intro w hw tracks
  obtain ⟨w', run, tracks'⟩ := h w hw tracks
  obtain ⟨w'', run', tracks''⟩ := h' w' (hw.trans run) tracks'
  exact ⟨w'', run.trans run', tracks''⟩

/-- The course that is where the run is, with the given book. -/
def course (r : Run α) (past : List (Note α)) : Course α :=
  { now := r.bench.instant, cache := r.bench.cache, handles := r.handles, past }

/-- A step that a course takes at the moment which the bench shows. -/
theorem goesOn_step (still : r'.bench.now = r.bench.now)
    (step : ∀ past, (r.course past).Booked →
      ∃ w, Course.Step (r.course past) w ∧ Tracks w r') : GoesOn r r' := by
  rintro ⟨now, cache, handles, past⟩ - ⟨⟨booked, same, shown⟩, held⟩
  obtain rfl : cache = r.bench.cache := same
  obtain rfl : handles = r.handles := held
  obtain ⟨w', step, tracks⟩ := step past booked
  have pass : Course.Timely ⟨now, r.bench.cache, r.handles, past⟩ (r.course past) :=
    ⟨.pass r.bench.instant (Nat.le_of_eq shown), .inl shown.symm⟩
  exact ⟨w', .tail (.single pass) ⟨step, .inl (tracks.now.trans still)⟩, tracks⟩

/-- What is done with the cache is done only if there is one. -/
theorem onCache_cases {P : Run α × Outcome α → Prop} {f : Cache α → Run α × Outcome α}
    (gone : P (r, .noCache)) (does : r.bench.cache.abandoned = false → P (f r.bench.cache)) :
    P (r.onCache f) := by
  unfold onCache
  split
  · exact gone
  · rename_i alive
    exact does (Bool.eq_false_iff.mpr alive)

/-- What is done with a handle is done only if it is held. -/
theorem onHandle_cases {P : Run α × Outcome α → Prop} {i : Nat} {f : Handle → Run α × Outcome α}
    (dropped : P (r, .noHandle)) (does : ∀ h, r.handles[i]? = some (some h) → P (f h)) :
    P (r.onHandle i f) := by
  unfold onHandle
  split
  · rename_i h found
    exact does h (Option.join_eq_some_iff.mp found)
  · exact dropped

theorem goesOn_onCache {f : Cache α → Run α × Outcome α}
    (does : r.bench.cache.abandoned = false → GoesOn r (f r.bench.cache).1) :
    GoesOn r (r.onCache f).1 :=
  onCache_cases (P := fun done => GoesOn r done.1) (.refl r) does

theorem goesOn_onHandle {i : Nat} {f : Handle → Run α × Outcome α}
    (does : ∀ h, r.handles[i]? = some (some h) → GoesOn r (f h).1) :
    GoesOn r (r.onHandle i f).1 :=
  onHandle_cases (P := fun done => GoesOn r done.1) (.refl r) does

/-- The holder of a handle has seen what there is to see. -/
theorem goesOn_look {i : Nat} {h : Handle} (held : r.handles[i]? = some (some h)) :
    GoesOn r (r.setHandle i (h.caughtUp r.bench.cache)) :=
  goesOn_step rfl fun _ booked => ⟨_, .look i held, ⟨booked, rfl, rfl⟩, rfl⟩

/-- Whatever a user does, a course can follow. -/
theorem goesOn_act [BEq α] (r : Run α) (s : Step α) : GoesOn r (r.act s).1 := by
  cases s with
  | subscribe key producer options =>
    refine goesOn_onCache fun alive => ?_
    dsimp only
    split
    · rename_i c h done
      exact goesOn_step rfl fun _ _ =>
        ⟨_, .subscribe key producer options alive done, ⟨rfl, rfl, rfl⟩, rfl⟩
    · exact .refl r
  | unsubscribe i =>
    refine goesOn_onHandle fun h held => ?_
    dsimp only
    split
    · rename_i gone
      exact goesOn_step rfl fun _ booked => ⟨_, .forget i gone, ⟨booked, rfl, rfl⟩, rfl⟩
    · rename_i alive
      exact goesOn_step rfl fun _ _ =>
        ⟨_, .unsubscribe i (Bool.eq_false_iff.mpr alive) held, ⟨rfl, rfl, rfl⟩, rfl⟩
  | current i =>
    refine goesOn_onHandle fun h held => ?_
    split <;> exact .refl r
  | latest i =>
    refine goesOn_onHandle fun h held => ?_
    split
    · exact goesOn_look held
    · exact .refl r
  | keyOf i => exact goesOn_onHandle fun _ _ => .refl r
  | changed i timeout =>
    refine goesOn_onHandle fun h held => ?_
    have waited := goesOn_bench (r := r) (goes_await (fun b => h.change? b.cache) timeout r.bench)
    dsimp only
    split
    · exact waited.trans (goesOn_look held)
    · exact waited
  | waitFor i wish timeout =>
    refine goesOn_onHandle fun h held => ?_
    exact (goesOn_bench (goes_await _ timeout r.bench)).trans (goesOn_look held)
  | entry key stale =>
    refine goesOn_onCache fun alive => ?_
    split <;> exact .refl r
  | refetch key =>
    refine goesOn_onCache fun alive => ?_
    split
    · rename_i c done
      exact goesOn_step rfl fun _ _ => ⟨_, .refetch key alive done, ⟨rfl, rfl, rfl⟩, rfl⟩
    · exact .refl r
  | invalidate key =>
    refine goesOn_onCache fun alive => ?_
    exact goesOn_step rfl fun _ _ => ⟨_, .invalidate key alive, ⟨rfl, rfl, rfl⟩, rfl⟩
  | clear =>
    refine goesOn_onCache fun alive => ?_
    exact goesOn_step rfl fun _ _ => ⟨_, .clear alive, ⟨rfl, rfl, rfl⟩, rfl⟩
  | hitRate => exact goesOn_onCache fun _ => .refl r
  | grace => exact goesOn_onCache fun _ => .refl r
  | abandon => exact goesOn_step rfl fun _ _ => ⟨_, .abandon, ⟨rfl, rfl, rfl⟩, rfl⟩
  | resolve producer call result => exact goesOn_bench (goes_resolve r.bench producer call result)
  | sleep ms => exact goesOn_bench (goes_sleep r.bench ms)
  | jump ms => exact goesOn_bench (goes_jump r.bench ms)

theorem goesOn_stepped [BEq α] (r : Run α) (s : Step α) (hold : Bool) :
    GoesOn r (r.step s hold).1 := by
  have acted := goesOn_act r s
  unfold step
  dsimp only
  split
  · exact acted
  · exact acted.trans (goesOn_bench (rests_rest _).goes)

/-- The run after several steps, each with whether the next one is to come first. -/
def steps [BEq α] (r : Run α) (done : List (Step α × Bool)) : Run α :=
  done.foldl (fun r s => (r.step s.1 s.2).1) r

theorem goesOn_steps [BEq α] : ∀ (done : List (Step α × Bool)) (r : Run α), GoesOn r (r.steps done)
  | [], r => .refl r
  | (s, hold) :: rest, r => (goesOn_stepped r s hold).trans (goesOn_steps rest _)

/-- Wherever a run comes to, there is a punctual course that has come to the same cache at the same
    time, with the same handles. -/
theorem punctual_steps [BEq α] {grace : Nat} (cache : r.bench.cache = { grace })
    (handles : r.handles = []) (done : List (Step α × Bool)) :
    ∃ w : Course α, w.Punctual ∧ Tracks w (r.steps done) := by
  have begins : Tracks (Course.fresh grace r.bench.instant) r :=
    ⟨⟨rfl, cache.symm, rfl⟩, handles.symm⟩
  have fresh : (Course.fresh (α := α) grace r.bench.instant).Punctual :=
    ⟨grace, r.bench.instant, .refl⟩
  obtain ⟨w, run, tracks⟩ := goesOn_steps done r _ fresh begins
  exact ⟨w, fresh.trans run, tracks⟩

end Run

end TaskWatch.Bench
