import TaskWatch.Proofs.Board.Courses
import TaskWatch.Proofs.Board.Stir

/-! While updates are paused the board stands still.

    A board that is paused holds no handle, and one that is not holds one on each query (`Linked`): the
    pause key takes both handles or gives both back, and no other step does either. Without a handle
    nobody is a subscriber of anything, so neither a task that was created nor a job starts a fetch.
    Fetches that were started before are answered and entries evicted, but a paused board does not
    look, and shows what it saw last (`Still`). -/

namespace TaskWatch

open Cache Board Relation

variable {b b' b'' : Board} {now now' : Time.Instant} {t t' : Shift}

namespace Board

/-! ### Both caches in their courses -/

/-- The board watches its two queries, and nobody else uses its caches. -/
structure Followed (now : Time.Instant) (b : Board) : Prop where
  tasks : ∃ v, b.tasks.Follows now b.tasksCache v
  metrics : ∃ v, b.metrics.Follows now b.metricsCache v
  tasksKey : b.tasks.key = tasksKey
  metricsKey : b.metrics.key = metricsKey

namespace Followed

/-- Whatever else there is on the board may change. -/
theorem of_watch (f : b.Followed now) (same : b'.watch = b.watch) : b'.Followed now := by
  simp only [watch, Prod.mk.injEq] at same
  obtain ⟨watcher, cache, watcher', cache', -⟩ := same
  refine ⟨?_, ?_, watcher ▸ f.tasksKey, watcher' ▸ f.metricsKey⟩
  · rw [watcher, cache]
    exact f.tasks
  · rw [watcher', cache']
    exact f.metrics

theorem attachTasks (f : b.Followed now) : (b.attachTasks now).Followed now ∧
    (b.attachTasks now).tasks.isAttached = true := by
  obtain ⟨v, follows⟩ := f.tasks
  obtain ⟨w, c, v', done, attached, key, -, follows'⟩ := follows.attach (f.tasksKey ▸ rfl)
  have after : Followed now { b.withTasks c with tasks := w } :=
    ⟨⟨v', follows'⟩, f.metrics, key.trans f.tasksKey, f.metricsKey⟩
  unfold Board.attachTasks
  rw [done]
  dsimp only
  split
  · exact ⟨after, attached⟩
  · exact ⟨after.of_watch rfl, attached⟩

theorem attachMetrics (f : b.Followed now) : (b.attachMetrics now).Followed now ∧
    (b.attachMetrics now).metrics.isAttached = true := by
  obtain ⟨v, follows⟩ := f.metrics
  obtain ⟨w, c, v', done, attached, key, -, follows'⟩ := follows.attach (f.metricsKey ▸ rfl)
  have after : Followed now { b.withMetrics c with metrics := w } :=
    ⟨f.tasks, ⟨v', follows'⟩, f.tasksKey, key.trans f.metricsKey⟩
  unfold Board.attachMetrics
  rw [done]
  dsimp only
  split
  · exact ⟨after, attached⟩
  · exact ⟨after.of_watch rfl, attached⟩

/-- A board that is started takes an interest in both queries. -/
theorem start (f : b.Followed now) : (b.start now).Followed now ∧
    (b.start now).tasks.isAttached = true ∧ (b.start now).metrics.isAttached = true := by
  obtain ⟨first, attached⟩ := f.attachTasks
  obtain ⟨both, attached'⟩ := first.attachMetrics
  exact ⟨both, (tasks_attachMetrics now _).symm ▸ attached, attached'⟩

/-- Jobs of the cache of tasks, and whatever else its watcher has no part in. -/
theorem withTasks {c : Cache (List Task)} (f : b.Followed now)
    (follows : ∃ v, b.tasks.Follows now { c with journal := [] } v) : (b.withTasks c).Followed now :=
  ⟨follows, f.metrics, f.tasksKey, f.metricsKey⟩

theorem withMetrics {c : Cache Metrics} (f : b.Followed now)
    (follows : ∃ v, b.metrics.Follows now { c with journal := [] } v) :
    (b.withMetrics c).Followed now :=
  ⟨f.tasks, follows, f.tasksKey, f.metricsKey⟩

theorem invalidate (f : b.Followed now) : (b.invalidate now).Followed now := by
  obtain ⟨v, follows⟩ := f.tasks
  obtain ⟨v', follows'⟩ := f.metrics
  exact (f.withTasks ⟨_, (follows.invalidate b.tasks.key).2⟩).withMetrics
    ⟨_, (follows'.invalidate b.metrics.key).2⟩

theorem refresh (f : b.Followed now) : (b.refresh now).Followed now := by
  unfold Board.refresh
  split
  · exact f.of_watch rfl
  · split
    · exact f.of_watch rfl
    · rename_i c done
      obtain ⟨v, follows⟩ := f.tasks
      have first := f.withTasks ⟨_, follows.refetch done⟩
      dsimp only
      split
      · exact first.of_watch rfl
      · rename_i c' done'
        obtain ⟨v', follows'⟩ := first.metrics
        exact first.withMetrics ⟨_, follows'.refetch done'⟩

theorem sync (f : b.Followed now) : b.sync.1.Followed now := by
  cases running : b.paused with
  | true =>
    rw [sync_paused running]
    exact f
  | false =>
    obtain ⟨v, follows⟩ := f.tasks
    obtain ⟨v', follows'⟩ := f.metrics
    obtain ⟨u, -, looked⟩ := follows.sync
    obtain ⟨u', -, looked'⟩ := follows'.sync
    have seen : Followed now { b with
        tasks := (b.tasks.sync b.tasksCache).1, metrics := (b.metrics.sync b.metricsCache).1 } :=
      ⟨⟨u, looked⟩, ⟨u', looked'⟩, (b.tasks.key_sync b.tasksCache).trans f.tasksKey,
        (b.metrics.key_sync b.metricsCache).trans f.metricsKey⟩
    refine seen.of_watch ?_
    rw [watch_sync running, watch, running]

end Followed

/-! ### Standing still -/

/-- No fetch was started, and what was seen last is still what is shown. -/
structure Still (b b' : Board) : Prop where
  tasks : b'.tasks.snapshot = b.tasks.snapshot
  metrics : b'.metrics.snapshot = b.metrics.snapshot
  tasksFetches : b'.tasksCache.stats.fetches = b.tasksCache.stats.fetches
  metricsFetches : b'.metricsCache.stats.fetches = b.metricsCache.stats.fetches

theorem Still.trans (h : b.Still b') (h' : b'.Still b'') : b.Still b'' :=
  ⟨h'.tasks.trans h.tasks, h'.metrics.trans h.metrics, h'.tasksFetches.trans h.tasksFetches,
    h'.metricsFetches.trans h.metricsFetches⟩

theorem Still.of_watch (same : b'.watch = b.watch) : b.Still b' := by
  simp only [watch, Prod.mk.injEq] at same
  obtain ⟨watcher, cache, watcher', cache', -⟩ := same
  exact ⟨watcher ▸ rfl, watcher' ▸ rfl, cache ▸ rfl, cache' ▸ rfl⟩

/-- To take no interest any more leaves all that is shown, and starts nothing. -/
theorem Followed.stop (f : b.Followed now) : (b.stop now).Followed now ∧ b.Still (b.stop now) ∧
    (b.stop now).tasks.handle = none ∧ (b.stop now).metrics.handle = none := by
  obtain ⟨v, follows⟩ := f.tasks
  obtain ⟨v', follows'⟩ := f.metrics
  obtain ⟨u, -, left, gone, fetches⟩ := follows.detach
  obtain ⟨u', -, left', gone', fetches'⟩ := follows'.detach
  have stopped : (b.stop now).watch =
      ((b.tasks.detach now b.tasksCache).1, { (b.tasks.detach now b.tasksCache).2 with journal := [] },
        (b.metrics.detach now b.metricsCache).1,
        { (b.metrics.detach now b.metricsCache).2 with journal := [] }, b.paused) := watch_stop now b
  simp only [watch, Prod.mk.injEq] at stopped
  obtain ⟨watcher, cache, watcher', cache', -⟩ := stopped
  refine ⟨⟨⟨u, ?_⟩, ⟨u', ?_⟩, ?_, ?_⟩, ⟨?_, ?_, ?_, ?_⟩, ?_, ?_⟩
  · rw [watcher, cache]; exact left
  · rw [watcher', cache']; exact left'
  · rw [watcher, gone]; exact f.tasksKey
  · rw [watcher', gone']; exact f.metricsKey
  · rw [watcher, gone]
  · rw [watcher', gone']
  · rw [cache]; exact fetches
  · rw [cache']; exact fetches'
  · rw [watcher, gone]
  · rw [watcher', gone']

/-! ### Handles and the pause -/

/-- A paused board holds no handle, and any other holds one on each query. -/
structure Linked (now : Time.Instant) (b : Board) : Prop where
  followed : b.Followed now
  away : b.paused = true → b.tasks.handle = none ∧ b.metrics.handle = none
  attached : b.paused = false → b.tasks.isAttached = true ∧ b.metrics.isAttached = true

namespace Linked

theorem of_watch (l : b.Linked now) (same : b'.watch = b.watch) : b'.Linked now := by
  have followed := l.followed.of_watch same
  simp only [watch, Prod.mk.injEq] at same
  obtain ⟨watcher, -, watcher', -, paused⟩ := same
  refine ⟨followed, ?_, ?_⟩
  · rw [watcher, watcher', paused]
    exact l.away
  · rw [watcher, watcher', paused]
    exact l.attached

/-- The watchers hold what they held before. -/
theorem of_handles (l : b.Linked now) (followed : b'.Followed now') (tasks : b'.tasks = b.tasks)
    (metrics : b'.metrics = b.metrics) (paused : b'.paused = b.paused) : b'.Linked now' := by
  refine ⟨followed, ?_, ?_⟩
  · rw [tasks, metrics, paused]
    exact l.away
  · rw [tasks, metrics, paused]
    exact l.attached

theorem stop (f : b.Followed now) (paused : b.paused = true) : (b.stop now).Linked now := by
  obtain ⟨followed, -, away⟩ := f.stop
  have still_paused : (b.stop now).paused = true := (congrArg (·.2.2) (desk_stop now b)).trans paused
  exact ⟨followed, fun _ => away, fun running => by simp [still_paused] at running⟩

theorem start (f : b.Followed now) (running : b.paused = false) : (b.start now).Linked now := by
  obtain ⟨followed, attached⟩ := f.start
  have still_running : (b.start now).paused = false :=
    (congrArg (·.2.2) (desk_start now b)).trans running
  exact ⟨followed, fun paused => by simp [still_running] at paused, fun _ => attached⟩

/-- The pause is of no concern to the courses of the caches. -/
theorem followed_paused (f : b.Followed now) (paused : Bool) : Followed now { b with paused } :=
  ⟨f.tasks, f.metrics, f.tasksKey, f.metricsKey⟩

theorem togglePause (l : b.Linked now) : (b.togglePause now).Linked now := by
  cases running : b.paused with
  | false =>
    exact (stop (followed_paused l.followed true) rfl).of_watch (watch_togglePause_running now running)
  | true =>
    exact (start (followed_paused l.followed false) rfl).of_watch (watch_togglePause_paused now running)

theorem refresh (l : b.Linked now) : (b.refresh now).Linked now := by
  obtain ⟨tasks, metrics⟩ := watchers_refresh now b
  exact l.of_handles l.followed.refresh tasks metrics (congrArg (·.2.2) (desk_refresh now b))

theorem sync (l : b.Linked now) : b.sync.1.Linked now := by
  cases running : b.paused with
  | true =>
    rw [sync_paused running]
    exact l
  | false =>
    have still_running : b.sync.1.paused = false := (paused_sync b).trans running
    have looked := watch_sync running
    simp only [watch, Prod.mk.injEq] at looked
    obtain ⟨watcher, -, watcher', -⟩ := looked
    refine ⟨l.followed.sync, fun paused => by simp [still_running] at paused, fun _ => ?_⟩
    rw [watcher, watcher', Watcher.isAttached_sync, Watcher.isAttached_sync]
    exact l.attached running

/-- An event keeps the handles in line with the pause. -/
theorem deals (l : b.Linked now) (deals : Deals now b b') : b'.Linked now := by
  cases deals with
  | rests watch moves => exact l.of_watch watch
  | toggles => exact l.togglePause
  | refreshes => exact l.refresh
  | stales watch selected =>
    exact (l.of_handles l.followed.invalidate rfl rfl rfl).of_watch watch

end Linked

/-- A board that takes no interest stands still, whatever is declared stale. -/
theorem Linked.still_invalidate (l : b.Linked now) (paused : b.paused = true) :
    b.Still (b.invalidate now) := by
  obtain ⟨away, away'⟩ := l.away paused
  obtain ⟨v, follows⟩ := l.followed.tasks
  obtain ⟨v', follows'⟩ := l.followed.metrics
  exact ⟨rfl, rfl, follows.fetches_invalidate away _, follows'.fetches_invalidate away' _⟩

/-- An event after which updates are paused, or paused still, leaves the board as it was. -/
theorem Linked.still (l : b.Linked now) (deals : Deals now b b') (paused : b'.paused = true) :
    b.Still b' := by
  cases deals with
  | rests watch moves => exact .of_watch watch
  | toggles =>
    have toggled : (b.togglePause now).paused = !b.paused :=
      congrArg (·.2.2) (desk_togglePause now b)
    have running : b.paused = false := by simpa [toggled] using paused
    have marked : b.Still { b with paused := true } := ⟨rfl, rfl, rfl, rfl⟩
    have stopped := (Linked.followed_paused l.followed true).stop.2.1
    exact marked.trans (stopped.trans (.of_watch (watch_togglePause_running now running)))
  | refreshes =>
    have paused : b.paused = true := (congrArg (·.2.2) (desk_refresh now b)).symm.trans paused
    refine .of_watch ?_
    rw [Board.refresh, if_pos paused]
    rfl
  | stales watch selected =>
    have same : b'.paused = b.paused := congrArg (·.2.2.2.2) watch
    exact (l.still_invalidate (same.symm.trans paused)).trans (.of_watch watch)

end Board

/-! ### Steps of a shift -/

namespace Shift

theorem Stir.linked (stir : Stir t t') (l : t.board.Linked t.now) : t'.board.Linked t'.now := by
  cases stir with
  | deals now deals board =>
    rw [now, board]
    exact (l.deals deals).of_watch rfl
  | looks now board =>
    rw [now, board]
    exact l.sync.of_watch rfl
  | tasks supplier state listed due now board =>
    obtain ⟨v, follows⟩ := l.followed.tasks
    have worked := l.followed.withTasks ⟨_, (follows.run supplier state listed due).2⟩
    rw [now, board]
    exact (l.of_handles worked rfl rfl rfl).of_watch rfl
  | metrics supplier state listed due now board =>
    obtain ⟨v, follows⟩ := l.followed.metrics
    have worked := l.followed.withMetrics ⟨_, (follows.run supplier state listed due).2⟩
    rw [now, board]
    exact (l.of_handles worked rfl rfl rfl).of_watch rfl
  | passes later board =>
    obtain ⟨v, follows⟩ := l.followed.tasks
    obtain ⟨v', follows'⟩ := l.followed.metrics
    have passed : t.board.Followed t'.now :=
      ⟨⟨_, follows.pass later⟩, ⟨_, follows'.pass later⟩, l.followed.tasksKey, l.followed.metricsKey⟩
    rw [board]
    exact l.of_handles passed rfl rfl rfl

/-- A step after which updates are paused leaves the board as it was. -/
theorem Stir.still (stir : Stir t t') (l : t.board.Linked t.now) (paused : t'.board.paused = true) :
    t.board.Still t'.board := by
  cases stir with
  | deals now deals board =>
    rw [board] at paused ⊢
    exact (l.still deals paused).trans (.of_watch rfl)
  | looks now board =>
    rw [board] at paused ⊢
    have paused : t.board.paused = true := (paused_sync t.board).symm.trans paused
    rw [sync_paused paused]
    exact .of_watch rfl
  | tasks supplier state listed due now board =>
    rw [board] at paused ⊢
    obtain ⟨v, follows⟩ := l.followed.tasks
    exact ⟨rfl, rfl, follows.fetches_run (l.away paused).1 supplier state listed due, rfl⟩
  | metrics supplier state listed due now board =>
    rw [board] at paused ⊢
    obtain ⟨v, follows⟩ := l.followed.metrics
    exact ⟨rfl, rfl, rfl, follows.fetches_run (l.away paused).2 supplier state listed due⟩
  | passes later board => exact board ▸ .of_watch rfl

theorem Leads.linked (leads : t.Leads t') (l : t.board.Linked t.now) : t'.board.Linked t'.now := by
  induction leads with
  | refl => exact l
  | tail _ step ih => exact step.stir.linked ih

/-- A watcher that has never been used follows a course that has just begun. -/
theorem follows_fresh {α : Type} (grace : Nat) (now : Time.Instant) (k : Key) (o : Options) :
    Watcher.Follows now { grace } ({ key := k, producer := 0, options := o } : Watcher α)
      (Course.fresh grace now) :=
  ⟨⟨grace, now, .refl⟩, rfl, rfl, rfl, rfl, nofun, nofun⟩

theorem Started.linked (ht : t.Started) : t.board.Linked t.now := by
  obtain ⟨grace, tasksOptions, metricsOptions, selected, now, leads⟩ := ht
  have fresh : (fresh grace tasksOptions metricsOptions selected now).board.Followed now :=
    ⟨⟨_, follows_fresh grace now _ _⟩, ⟨_, follows_fresh grace now _ _⟩, rfl, rfl⟩
  exact leads.linked ((Linked.start fresh rfl).of_watch rfl)

theorem still_of_paused (run : ReflTransGen (During true) t t') (l : t.board.Linked t.now) :
    t.board.Still t'.board ∧ t'.board.Linked t'.now := by
  induction run with
  | refl => exact ⟨.of_watch rfl, l⟩
  | tail _ step ih =>
    obtain ⟨still, l⟩ := ih
    exact ⟨still.trans (step.1.stir.still l step.2), step.1.stir.linked l⟩

end Shift

/-- Once a board was started, updates are paused just when it holds no handle, and not paused just when
    it holds one on each of its two queries. Then it is the only subscriber of two entries that are
    there, and a refresh fetches both anew. From a state in which updates are paused, or are about to
    be, up to one in which they are paused still, no fetch is started, whatever happens. All that is
    shown stays as it was, and a look finds no change. -/
theorem pause_stands_still {t : Shift} (ht : t.Started) :
    (t.board.paused = true ↔ t.board.tasks.handle = none ∧ t.board.metrics.handle = none) ∧
    (t.board.paused = false ↔
      t.board.tasks.isAttached = true ∧ t.board.metrics.isAttached = true) ∧
    (t.board.paused = false →
      (∃ e, t.board.tasksCache.entry? tasksKey = some e ∧
        t.board.tasksCache.subscriberCount tasksKey = 1) ∧
      (∃ e, t.board.metricsCache.entry? metricsKey = some e ∧
        t.board.metricsCache.subscriberCount metricsKey = 1) ∧
      ∃ c c', t.board.tasksCache.refetch t.now tasksKey = .ok c ∧
        t.board.metricsCache.refetch t.now metricsKey = .ok c' ∧
        t.board.refresh t.now = (t.board.withTasks c).withMetrics c') ∧
    ∀ t', ReflTransGen (Shift.During true) t t' → t.board.Still t'.board ∧
      (t'.board.paused = true → t'.board.sync = (t'.board, false)) := by
  have l := ht.linked
  have away (attached : t.board.tasks.isAttached = true) : t.board.tasks.handle ≠ none := by
    simpa [Watcher.isAttached, Option.isSome_iff_ne_none] using attached
  refine ⟨⟨l.away, fun gone => ?_⟩, ⟨l.attached, fun attached => ?_⟩, fun running => ?_,
    fun t' run => ⟨(Shift.still_of_paused run l).1, sync_paused⟩⟩
  · exact Bool.eq_true_of_not_eq_false fun running => away (l.attached running).1 gone.1
  · exact Bool.eq_false_iff.mpr fun paused => away attached.1 (l.away paused).1
  · obtain ⟨attached, attached'⟩ := l.attached running
    obtain ⟨h, held⟩ := Option.isSome_iff_exists.mp attached
    obtain ⟨h', held'⟩ := Option.isSome_iff_exists.mp attached'
    obtain ⟨v, follows⟩ := l.followed.tasks
    obtain ⟨v', follows'⟩ := l.followed.metrics
    obtain ⟨-, s, -, there, -, alone⟩ := follows.alone held
    obtain ⟨-, s', -, there', -, alone'⟩ := follows'.alone held'
    obtain ⟨c, done⟩ := follows.can_refetch held
    obtain ⟨c', done'⟩ := follows'.can_refetch held'
    have refreshed : t.board.refresh t.now = (t.board.withTasks c).withMetrics c' := by
      rw [refresh, if_neg (by simp [running]), done]
      dsimp only
      rw [show (t.board.withTasks c).metricsCache.refetch t.now (t.board.withTasks c).metrics.key =
        .ok c' from done']
    rw [l.followed.tasksKey] at there alone done
    rw [l.followed.metricsKey] at there' alone' done'
    exact ⟨⟨_, entry_there there, alone⟩, ⟨_, entry_there there', alone'⟩, c, c', done, done',
      refreshed⟩

/-- Updates are paused while both queries are fetched for the first time. The tasks arrive, one is
    created, a refresh is asked for, and the grace period ends. Both entries are evicted then, only the
    first fetch of each was started, and nothing is shown. -/
theorem nothing_starts_while_paused :
    let t := Shift.played [.tasks 1 10 (.ok sampleTasks), .metrics 1 20 (.error "down")]
    let t' := t.plays ([.key (.char 'p'), .pass 10, .tasks 1 0 (.ok sampleTasks), .key (.char 'n')] ++
      Shift.typed "abc" ++ [.key .enter,
        .settle 0 (.ok ⟨"ts_6", "abc", .email, .pending, 5, 0, Time.benchStart⟩), .key (.char 'r'),
        .pass 300000, .tasks 2 0 (.ok []), .metrics 1 0 (.error "down"), .metrics 2 0 (.error "down")])
    t.Started ∧ t.board.paused = false ∧ ReflTransGen (Shift.During true) t t' ∧
      t'.board.tasksCache.entry? tasksKey = none ∧ t'.board.metricsCache.entry? metricsKey = none ∧
      t'.board.tasksCache.stats.fetches = 1 ∧ t'.board.metricsCache.stats.fetches = 1 ∧
      t'.board.rows = [] ∧ t'.board.sync = (t'.board, false) := by
  intro t t'
  have ht : t.Started := Shift.started_played _
  have run : ReflTransGen (Shift.During true) t t' := Shift.during_plays (by decide +kernel)
  obtain ⟨-, -, -, still⟩ := pause_stands_still ht
  obtain ⟨⟨tasks, -, tasksFetches, metricsFetches⟩, unchanged⟩ := still t' run
  have gone : (t'.board.tasksCache.entry? tasksKey).isNone = true ∧
      (t'.board.metricsCache.entry? metricsKey).isNone = true := by decide +kernel
  have fetched : t.board.tasksCache.stats.fetches = 1 ∧ t.board.metricsCache.stats.fetches = 1 := by
    decide +kernel
  have shown : t'.board.rows = t.board.rows :=
    congrArg (fun snapshot => (snapshot.bind (·.data)).getD []) tasks
  exact ⟨ht, by decide +kernel, run, Option.isNone_iff_eq_none.mp gone.1,
    Option.isNone_iff_eq_none.mp gone.2, tasksFetches.trans fetched.1, metricsFetches.trans fetched.2,
    shown.trans (by decide +kernel), unchanged (by decide +kernel)⟩

end TaskWatch
