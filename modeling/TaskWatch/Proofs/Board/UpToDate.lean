import TaskWatch.Proofs.Board.Desk
import TaskWatch.Proofs.Board.Steps
import TaskWatch.Proofs.Board.Watching

/-! The board shows what the source has.

    A task that is created makes the data of both queries out of date, and its outcome, wherever it
    waits, will declare them stale. So at each moment there is an outcome that nobody has handled, or
    both queries are covered: what they do not show yet is being fetched, or marked as stale for whoever
    takes an interest next. A fetch in flight does cover a task that is created meanwhile, for its
    answer is read off the source at the moment at which it is entered. A board that is not paused takes
    an interest in both queries. Every step keeps that up, and once all outcomes are handled and nothing
    is in flight, nothing is left but that the board has yet to look. -/

namespace TaskWatch

open Cache Board Source

variable {b b' : Board} {s s' : Session} {current current' : List Task}
  {settled settled' started started' : Prop} {now : Time.Instant}

/-! ### Unsettled sources -/

namespace Watcher

variable {α : Type} {a a' : α} {w : Watcher α} {slot : Option (Slot α)}

/-- As long as somebody has yet to declare the data stale, the source may have anything. -/
theorem Sound.unsettled (sound : w.Sound a settled slot) (a' : α) : w.Sound a' False slot :=
  ⟨sound.valid, fun s there => ⟨False.elim, (sound.covered s there).attended⟩, sound.away, sound.sees⟩

theorem Sound.mono (sound : w.Sound a settled slot) (less : settled' → settled) :
    w.Sound a settled' slot :=
  ⟨sound.valid,
    fun s there => ⟨fun h => (sound.covered s there).current (less h), (sound.covered s there).attended⟩,
    sound.away, sound.sees⟩

end Watcher

/-! ### The board -/

namespace Board

/-- Both queries are covered, and a board that was started and is not paused watches both. -/
structure Sound (current : List Task) (settled started : Prop) (b : Board) : Prop where
  tasks : b.tasks.Sound current settled (b.tasksCache.slots.find? b.tasks.key)
  metrics : b.metrics.Sound (Metrics.ofTasks current) settled
    (b.metricsCache.slots.find? b.metrics.key)
  attached : started → b.paused = false → b.tasks.isAttached = true ∧ b.metrics.isAttached = true

/-- What the board watches, with what, and whether it does. -/
def watch (b : Board) :
    Watcher (List Task) × Cache (List Task) × Watcher Metrics × Cache Metrics × Bool :=
  (b.tasks, b.tasksCache, b.metrics, b.metricsCache, b.paused)

namespace Sound

/-- Whatever else there is on the board may change. -/
theorem of_watch (sound : b.Sound current settled started) (same : b'.watch = b.watch) :
    b'.Sound current settled started := by
  simp only [watch, Prod.mk.injEq] at same
  obtain ⟨watcher, cache, watcher', cache', paused⟩ := same
  refine ⟨?_, ?_, ?_⟩
  · rw [watcher, cache]
    exact sound.tasks
  · rw [watcher', cache']
    exact sound.metrics
  · rw [watcher, watcher', paused]
    exact sound.attached

theorem unsettled (sound : b.Sound current settled started) (current' : List Task) :
    b.Sound current' False started :=
  ⟨sound.tasks.unsettled _, sound.metrics.unsettled _, sound.attached⟩

theorem mono (sound : b.Sound current settled started) (less : settled' → settled) :
    b.Sound current settled' started :=
  ⟨sound.tasks.mono less, sound.metrics.mono less, sound.attached⟩

/-! ### Watching -/

theorem attachTasks (sound : b.Sound current settled started) (now : Time.Instant) :
    (b.attachTasks now).Sound current settled started ∧ (b.attachTasks now).tasks.isAttached = true := by
  obtain ⟨w, c, done, attached, sound'⟩ := sound.tasks.attach now
  have after : Sound current settled started { b.withTasks c with tasks := w } :=
    ⟨sound', sound.metrics, fun h running => ⟨attached, (sound.attached h running).2⟩⟩
  unfold Board.attachTasks
  rw [done]
  dsimp only
  split
  · exact ⟨after, attached⟩
  · exact ⟨after.of_watch rfl, attached⟩

theorem attachMetrics (sound : b.Sound current settled started) (now : Time.Instant) :
    (b.attachMetrics now).Sound current settled started ∧
      (b.attachMetrics now).metrics.isAttached = true ∧ (b.attachMetrics now).tasks = b.tasks := by
  obtain ⟨w, c, done, attached, sound'⟩ := sound.metrics.attach now
  have after : Sound current settled started { b.withMetrics c with metrics := w } :=
    ⟨sound.tasks, sound', fun h running => ⟨(sound.attached h running).1, attached⟩⟩
  unfold Board.attachMetrics
  rw [done]
  dsimp only
  split
  · exact ⟨after, attached, rfl⟩
  · exact ⟨after.of_watch rfl, attached, rfl⟩

/-- A board that is started watches both queries. -/
theorem start (sound : b.Sound current settled started) (now : Time.Instant) (started' : Prop) :
    (b.start now).Sound current settled started' := by
  obtain ⟨first, tasksAttached⟩ := sound.attachTasks now
  obtain ⟨both, metricsAttached, same⟩ := first.attachMetrics now
  exact ⟨both.tasks, both.metrics, fun _ _ => ⟨same ▸ tasksAttached, metricsAttached⟩⟩

theorem detachTasks (sound : b.Sound current settled started) (paused : b.paused = true)
    (now : Time.Instant) :
    (b.detachTasks now).Sound current settled started ∧ (b.detachTasks now).paused = true := by
  have after : Sound current settled started
      { b.withTasks (b.tasks.detach now b.tasksCache).2 with
        tasks := (b.tasks.detach now b.tasksCache).1 } :=
    ⟨sound.tasks.detach now, sound.metrics, fun _ running => by simp [withTasks, paused] at running⟩
  unfold Board.detachTasks
  dsimp only
  split
  · exact ⟨after.of_watch rfl, paused⟩
  · exact ⟨after, paused⟩

theorem detachMetrics (sound : b.Sound current settled started) (paused : b.paused = true)
    (now : Time.Instant) : (b.detachMetrics now).Sound current settled started := by
  have after : Sound current settled started
      { b.withMetrics (b.metrics.detach now b.metricsCache).2 with
        metrics := (b.metrics.detach now b.metricsCache).1 } :=
    ⟨sound.tasks, sound.metrics.detach now, fun _ running => by simp [withMetrics, paused] at running⟩
  unfold Board.detachMetrics
  dsimp only
  split
  · exact after.of_watch rfl
  · exact after

theorem togglePause (sound : b.Sound current settled started) (now : Time.Instant) :
    (b.togglePause now).Sound current settled started := by
  cases running : b.paused with
  | false =>
    have toggled : Sound current settled started { b with paused := true } :=
      ⟨sound.tasks, sound.metrics, fun _ running => by simp at running⟩
    obtain ⟨first, paused⟩ := toggled.detachTasks rfl now
    have both := first.detachMetrics paused now
    unfold Board.togglePause
    rw [running]
    exact both.of_watch rfl
  | true =>
    -- The board watches nothing yet, so it counts as one that was not started.
    have toggled : Sound current settled False { b with paused := false } :=
      ⟨sound.tasks, sound.metrics, False.elim⟩
    have both := toggled.start now started
    unfold Board.togglePause
    rw [running]
    exact both.of_watch rfl

theorem refresh (sound : b.Sound current settled started) (now : Time.Instant) :
    (b.refresh now).Sound current settled started := by
  unfold Board.refresh
  split
  · exact sound.of_watch rfl
  · split
    · exact sound.of_watch rfl
    · rename_i c done
      have refetched := sound.tasks.chores (chores_refetch done)
      have first : Sound current settled started (b.withTasks c) :=
        ⟨refetched, sound.metrics, sound.attached⟩
      dsimp only
      split
      · exact first.of_watch rfl
      · rename_i c' done'
        have refetched' := first.metrics.chores (chores_refetch done')
        exact ⟨first.tasks, refetched', first.attached⟩

/-- A task that was created makes both queries stale, and so covered, whatever the source has now. -/
theorem created (sound : b.Sound current settled started) (now : Time.Instant) (t : Task)
    (current' : List Task) (settled' : Prop) :
    (b.handleCreated now (.ok t)).Sound current' settled' started :=
  ⟨sound.tasks.invalidate now current' settled', sound.metrics.invalidate now _ settled', sound.attached⟩

end Sound

/-! ### What does not concern the queries -/

theorem watch_selectRow (i : Nat) (b : Board) : (b.selectRow i).watch = b.watch := by
  rw [selectRow_eq]
  rfl

theorem watch_reconcile (b : Board) : b.reconcile.watch = b.watch := by
  unfold reconcile
  split <;> rfl

theorem watch_openForm (b : Board) : b.openForm.watch = b.watch := by
  unfold openForm
  split <;> rfl

theorem watch_actOnForm (a : FormAction) (b : Board) : (b.actOnForm a).1.watch = b.watch := by
  obtain ⟨_, _, same⟩ := actOnForm_eq a b
  rw [same]
  rfl

/-- What the board watches once it has looked. -/
theorem watch_sync (running : b.paused = false) : b.sync.1.watch =
    ((b.tasks.sync b.tasksCache).1, b.tasksCache, (b.metrics.sync b.metricsCache).1, b.metricsCache,
      false) := by
  rw [← running]
  unfold sync
  rw [if_neg (by simp [running])]
  dsimp only
  split
  · exact watch_reconcile _
  · rfl

namespace Sound

theorem sync (sound : b.Sound current settled started) : b.sync.1.Sound current settled started := by
  cases running : b.paused with
  | true =>
    have same : b.sync.1 = b := by simp [Board.sync, running]
    rw [same]
    exact sound
  | false =>
    obtain ⟨looked, attached⟩ := sound.tasks.sync
    obtain ⟨looked', attached'⟩ := sound.metrics.sync
    have seen : Sound current settled started { b with
        tasks := (b.tasks.sync b.tasksCache).1, metrics := (b.metrics.sync b.metricsCache).1 } :=
      ⟨looked, looked', fun h running => by
        rw [attached, attached']
        exact sound.attached h running⟩
    refine seen.of_watch ?_
    rw [watch_sync running, watch, running]

theorem act (sound : b.Sound current settled started) (now : Time.Instant) (a : Action) :
    (b.act now a).1.Sound current settled started := by
  cases a with
  | quit => exact sound
  | moveDown => exact sound.of_watch (watch_selectRow _ b)
  | moveUp => exact sound.of_watch (watch_selectRow _ b)
  | pauseUpdates => exact sound.togglePause now
  | refresh => exact sound.refresh now
  | newTask => exact sound.of_watch (watch_openForm b)
  | cancel => exact sound.of_watch rfl

theorem actOnForm (sound : b.Sound current settled started) (a : FormAction) :
    (b.actOnForm a).1.Sound current settled started := sound.of_watch (watch_actOnForm a b)

theorem handle (sound : b.Sound current settled started) (now : Time.Instant) (h : Happening) :
    (b.handle now h).1.Sound current settled started := by
  cases h with
  | key e =>
    unfold Board.handle
    dsimp only
    split
    · split
      · exact sound.actOnForm _
      · exact sound
    · split
      · exact sound.act now _
      · exact sound
  | resize => exact sound
  | created outcome =>
    cases outcome with
    | ok t => exact sound.created now t current settled
    | error message => exact sound.of_watch rfl

end Sound

end Board

/-! ### The session -/

namespace Source.Memory

variable {m : Memory}

theorem fetchTasks_ok (working : m.failure = none) : m.fetchTasks = .ok m.tasks := by
  rw [fetchTasks, guarded, working]

theorem fetchMetrics_ok (working : m.failure = none) :
    m.fetchMetrics = .ok (Metrics.ofTasks m.tasks) := by
  rw [fetchMetrics, guarded, working]

theorem create_ok (working : m.failure = none) (now : Time.Instant) (r : Request) :
    ∃ t m', m.create now r = (m', .ok t) ∧ m'.failure = none := by
  rw [create, working]
  exact ⟨_, _, rfl, rfl⟩

end Source.Memory

namespace Session

theorem reply_tasks {m : Memory} (working : m.failure = none) (producer call : Nat) :
    tasksSupplier.reply producer call m = .ok m.tasks := by
  simp only [tasksSupplier, Memory.fetchTasks_ok working]
  rfl

theorem reply_metrics {m : Memory} (working : m.failure = none) (producer call : Nat) :
    metricsSupplier.reply producer call m = .ok (Metrics.ofTasks m.tasks) := by
  simp only [metricsSupplier, Memory.fetchMetrics_ok working]
  rfl

/-- A job reads the source and leaves it as it is. -/
theorem run_tasks (j : Job) (s : Session) : s.run (.tasks j) = s.withBoard
    (s.board.withTasks (s.board.tasksCache.runJob tasksSupplier s.instant j s.source).1) := by
  have same : (s.board.tasksCache.runJob tasksSupplier s.instant j s.source).2 = s.source := by
    unfold runJob
    cases j.duty <;> rfl
  unfold run
  dsimp only
  rw [same]

theorem run_metrics (j : Job) (s : Session) : s.run (.metrics j) = s.withBoard
    (s.board.withMetrics (s.board.metricsCache.runJob metricsSupplier s.instant j s.source).1) := by
  have same : (s.board.metricsCache.runJob metricsSupplier s.instant j s.source).2 = s.source := by
    unfold runJob
    cases j.duty <;> rfl
  unfold run
  dsimp only
  rw [same]

/-- Once every outcome is handled, both queries of the board are covered. -/
structure Sound (started : Prop) (s : Session) : Prop where
  board : s.board.Sound s.source.tasks (s.line = [] ∧ s.waiting = []) started
  working : s.source.failure = none
  accepted : ∀ outcome ∈ s.line ++ s.waiting, ∃ t, outcome = .ok t
  opened : s.closed = false

namespace Sound

theorem withBoard (sound : s.Sound started)
    (board : b.Sound s.source.tasks (s.line = [] ∧ s.waiting = []) started') :
    (s.withBoard b).Sound started' :=
  ⟨board.of_watch rfl, sound.working, sound.accepted, sound.opened⟩

theorem react (sound : s.Sound started)
    (board : b.Sound s.source.tasks (s.line = [] ∧ s.waiting = []) started) (r : Reaction) :
    (s.react b r).1.Sound started := by
  have after := sound.withBoard board
  cases r with
  | create request => exact ⟨after.board, after.working, after.accepted, after.opened⟩
  | none => exact after
  | quit => exact after

/-- An outcome that is under way is yet to be handled. -/
theorem send {t : Task} (board : s.board.Sound s.source.tasks False started)
    (working : s.source.failure = none)
    (accepted : ∀ outcome ∈ s.line ++ s.waiting, ∃ t, outcome = .ok t) (opened : s.closed = false) :
    (s.send (.ok t)).Sound started := by
  unfold Session.send
  rw [if_neg (by simp [opened])]
  split
  · refine ⟨board.mono (fun h => by simp at h), working, fun outcome listed => ?_, opened⟩
    simp only [List.append_assoc, List.mem_append, List.mem_singleton] at listed
    rcases listed with listed | rfl | listed
    · exact accepted _ (List.mem_append_left _ listed)
    · exact ⟨t, rfl⟩
    · exact accepted _ (List.mem_append_right _ listed)
  · refine ⟨board.mono (fun h => by simp at h), working, fun outcome listed => ?_, opened⟩
    rw [← List.append_assoc] at listed
    rcases List.mem_append.mp listed with listed | listed
    · exact accepted _ listed
    · exact ⟨t, List.mem_singleton.mp listed⟩

theorem refill (sound : s.Sound started) : s.refill.Sound started := by
  have same (n : Nat) : (s.line ++ s.waiting.take n) ++ s.waiting.drop n = s.line ++ s.waiting := by
    rw [List.append_assoc, List.take_append_drop]
  unfold Session.refill
  rw [if_neg (by simp [sound.opened])]
  refine ⟨sound.board.mono (fun h => ?_), sound.working, ?_, sound.opened⟩
  · have empty := same (lineLength - s.line.length)
    dsimp only at h
    rw [h.1, h.2] at empty
    exact List.append_eq_nil_iff.mp empty.symm
  · dsimp only
    rw [same]
    exact sound.accepted

/-- Jobs find the answer that the source has at that moment. -/
theorem work (sound : s.Sound started) (w : Work) : (s.run w).Sound started := by
  cases w with
  | tasks j =>
    have chores := chores_runJob tasksSupplier s.source (reply_tasks sound.working) s.instant j
      s.board.tasks.key s.board.tasksCache
    have kept := sound.board.tasks.chores chores
    rw [run_tasks]
    exact sound.withBoard ⟨kept, sound.board.metrics, sound.board.attached⟩
  | metrics j =>
    have chores := chores_runJob metricsSupplier s.source (reply_metrics sound.working) s.instant j
      s.board.metrics.key s.board.metricsCache
    have kept := sound.board.metrics.chores chores
    rw [run_metrics]
    exact sound.withBoard ⟨sound.board.tasks, kept, sound.board.attached⟩
  | errand e =>
    obtain ⟨t, m, created, working⟩ := Memory.create_ok sound.working s.instant e.request
    rw [run, runErrand_eq]
    dsimp only
    rw [show Session.instant { s with errands := s.errands.drop 1 } = s.instant from rfl, created]
    exact send (sound.board.unsettled m.tasks) working sound.accepted sound.opened

/-- The first outcome in line is that of a task that was created. -/
theorem take {outcome : Created} {rest : List Created} (sound : s.Sound started)
    (first : s.line = outcome :: rest) :
    ({ s with line := rest }.handle (.created outcome)).1.Sound started := by
  have accepted := sound.accepted
  rw [first] at accepted
  obtain ⟨t, rfl⟩ := accepted outcome (List.mem_cons_self ..)
  have board := sound.board.created s.instant t s.source.tasks (rest = [] ∧ s.waiting = [])
  exact ⟨board.of_watch rfl, sound.working,
    fun outcome listed => accepted outcome (List.mem_cons_of_mem _ listed), sound.opened⟩

theorem step (step : Step s s') (sound : s.Sound started) : s'.Sound started := by
  cases step with
  | start => exact sound.withBoard (sound.board.start s.instant started)
  | sync => exact sound.withBoard sound.board.sync
  | handle h => exact sound.react (sound.board.handle s.instant h) _
  | take first => exact sound.take first
  | act a => exact sound.react (sound.board.act s.instant a) _
  | actOnForm a => exact sound.react (sound.board.actOnForm a) _
  | work due => exact sound.work _
  | refill => exact sound.refill
  | pass now later => exact ⟨sound.board, sound.working, sound.accepted, sound.opened⟩

theorem leads (leads : s.Leads s') (sound : s.Sound started) : s'.Sound started := by
  induction leads with
  | refl => exact sound
  | tail _ step ih => exact ih.step step

end Sound

/-- At the beginning there is no entry, and nobody has started the board. -/
theorem fresh_sound (grace : Nat) (tasksOptions metricsOptions : Options) (selected : Option String)
    {source : Memory} (working : source.failure = none) (now : Nat) (origin : Time.Stamp) :
    (fresh grace tasksOptions metricsOptions selected source now origin).Sound False where
  board := ⟨.vacant rfl rfl, .vacant rfl rfl, False.elim⟩
  working := working
  accepted _ listed := (List.not_mem_nil listed).elim
  opened := rfl

theorem Reachable.sound (hs : s.Reachable) : s.Sound False := by
  obtain ⟨grace, tasksOptions, metricsOptions, selected, source, now, origin, working, leads⟩ := hs
  exact (fresh_sound grace tasksOptions metricsOptions selected working now origin).leads leads

theorem Started.sound (hs : s.Started) : s.Sound True := by
  obtain ⟨s₀, hs₀, leads⟩ := hs
  have sound := hs₀.sound
  exact (sound.withBoard (sound.board.start s₀.instant True)).leads leads

end Session

/-- In a cache in which no slot has a flight none is in flight. -/
theorem not_flying_of_rows {α : Type} {c : Cache α}
    (idle : c.slots.rows.all (fun r => r.2.inFlight.isNone) = true) (k : Key) (g : Nat) :
    ¬ c.Flying k g := by
  rintro ⟨slot, f, there, flying, -⟩
  have none := List.all_eq_true.mp idle _ (Table.mem_rows_of_find? there)
  simp [flying] at none

/-- Let the board have been started on a source that is never told to fail. Whatever keys were pressed
    since, whatever was asked of the board, and however time passed: whenever updates are not paused,
    no fetch is in flight in either cache and every outcome of asking for a task was handled, a look at
    the queries shows the tasks that the source has, all of them, and their headline numbers. -/
theorem board_shows_source {s : Session} (hs : s.Started) (running : s.board.paused = false)
    (idle : ∀ k g, ¬ s.board.tasksCache.Flying k g ∧ ¬ s.board.metricsCache.Flying k g)
    (handled : s.line = [] ∧ s.waiting = []) :
    s.board.sync.1.tasks.data = some s.source.tasks ∧ s.board.sync.1.rows = s.source.tasks ∧
      s.board.sync.1.metrics.data = some (Metrics.ofTasks s.source.tasks) := by
  have board := hs.sound.board
  obtain ⟨attached, attached'⟩ := board.attached trivial running
  have looked := watch_sync running
  simp only [watch, Prod.mk.injEq] at looked
  obtain ⟨tasks, -, metrics, -⟩ := looked
  have shown : s.board.sync.1.tasks.data = some s.source.tasks := by
    rw [tasks]
    refine board.tasks.shows handled attached fun slot there => ?_
    exact Option.eq_none_iff_forall_ne_some.mpr fun f flying =>
      (idle _ f.generation).1 ⟨slot, f, there, flying, rfl⟩
  refine ⟨shown, by rw [rows, shown, Option.getD_some], ?_⟩
  rw [metrics]
  refine board.metrics.shows handled attached' fun slot there => ?_
  exact Option.eq_none_iff_forall_ne_some.mpr fun f flying =>
    (idle _ f.generation).2 ⟨slot, f, there, flying, rfl⟩

/-- While updates were paused a task was created. After they were resumed and the queries were fetched
    anew, a look shows it. -/
theorem created_while_paused_shown :
    let begun := Session.fresh 300000 {} {} none (.ofTasks [] 0 0) 0 Time.benchStart
    let shown := (begun.withBoard (begun.board.start begun.instant)).rest
    let asked := shown.press [.char 'p', .char 'n', .char 'a', .char 'b', .char 'c', .enter]
    let s := (asked.rest.pump.1.press [.char 'p']).rest
    s.board.rows = [] ∧ s.board.sync.1.rows = s.source.tasks ∧
      s.source.tasks.map (·.name) = ["abc"] ∧
      s.board.sync.1.metrics.data = some (Metrics.ofTasks s.source.tasks) := by
  intro begun shown asked s
  have hs : s.Started := by
    have first : (begun.withBoard (begun.board.start begun.instant)).Proceeds asked :=
      (Session.proceeds_rest _).trans (Session.proceeds_press _ shown)
    have handled : asked.Proceeds asked.rest.pump.1 :=
      (Session.proceeds_rest _).trans (Session.proceeds_pump _)
    have resumed : asked.rest.pump.1.Proceeds s :=
      (Session.proceeds_press _ _).trans (Session.proceeds_rest _)
    have started : (begun.withBoard (begun.board.start begun.instant)).Started :=
      ⟨begun, ⟨_, _, _, _, _, _, _, rfl, .refl⟩, .refl⟩
    exact started.leads (Session.Proceeds.leads ((first.trans handled).trans resumed))
  have idle : s.board.tasksCache.slots.rows.all (fun r => r.2.inFlight.isNone) = true ∧
      s.board.metricsCache.slots.rows.all (fun r => r.2.inFlight.isNone) = true := by
    decide +kernel
  obtain ⟨-, rows, metrics⟩ := board_shows_source hs (by decide +kernel)
    (fun k g => ⟨not_flying_of_rows idle.1 k g, not_flying_of_rows idle.2 k g⟩)
    ⟨List.length_eq_zero_iff.mp (by decide +kernel), List.length_eq_zero_iff.mp (by decide +kernel)⟩
  exact ⟨List.length_eq_zero_iff.mp (by decide +kernel), rows, by decide +kernel, metrics⟩

end TaskWatch
