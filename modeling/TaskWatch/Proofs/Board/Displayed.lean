import TaskWatch.Proofs.Board.Paused
import TaskWatch.Proofs.Board.Watching
import TaskWatch.Proofs.Cache.Announced

/-! After a look the board shows what its caches hold.

    A watcher takes a snapshot of its entry when it begins to take an interest and when it looks and
    finds a change. What was published since is news to it, and is told from the fetch in flight
    (`Watcher.news`). A board at work is followed together with the news that there is of either query
    (`News`). In every state a watcher that takes an interest has news just when its handle is behind
    the version of the entry, and without news its snapshot is the entry (`Watcher.Abreast`). So a look
    shows both entries as they are, whichever of them there was news of. -/

namespace TaskWatch

open Cache Board

variable {α : Type} {now : Time.Instant} {w w' : Watcher α} {c c' : Cache α} {h : Handle}
  {s s' : Slot α} {old : Bool}

/-! ### The news of one query -/

namespace Watcher

/-- The watcher was given a handle or moved on the one that it holds, and took a snapshot as it did. -/
def takes (w w' : Watcher α) : Bool := w'.handle.isSome && w'.handle != w.handle

/-- Whether there is news for the watcher after a step, if there was some or none before. Unless it has
    just taken a snapshot there is what there was, and what the step has published: if the fetch in
    flight is not the one it was, a fetch was started or the answer to one was entered. -/
def news (old : Bool) (w w' : Watcher α) (c c' : Cache α) : Bool :=
  !w.takes w' && (old || c'.flight? w.key != c.flight? w.key)

/-- The watcher has seen its entry as it is, but for the news. -/
structure Beholds (news : Bool) (c : Cache α) (w : Watcher α) (h : Handle) (s : Slot α) : Prop where
  own : h.key = w.key
  there : c.slots.find? w.key = some s
  birth : s.birth = h.birth
  attended : s.subscribers ≠ []
  seen : h.seen ≤ s.version
  news : news = true ↔ h.seen ≠ s.version
  latest : h.seen = s.version → w.snapshot = some s.entry

/-- A watcher that takes an interest has seen its entry as it is, but for the news. -/
def Abreast (news : Bool) (c : Cache α) (w : Watcher α) : Prop :=
  ∀ h, w.handle = some h → ∃ s, w.Beholds news c h s

theorem takes_self (w : Watcher α) : w.takes w = false := by simp [takes]

theorem takes_of_away (away : w.handle = none) (attached : w'.isAttached = true) :
    w.takes w' = true := by
  have other : w'.handle ≠ none := Option.isSome_iff_ne_none.mp attached
  rw [takes, show w'.handle.isSome = true from attached, away]
  simpa using other

theorem news_of_takes (takes : w.takes w' = true) : news old w w' c c' = false := by
  rw [news, takes]
  rfl

theorem news_of_keeps (takes : w.takes w' = false) :
    news old w w' c c' = (old || c'.flight? w.key != c.flight? w.key) := by
  rw [news, takes]
  rfl

theorem news_self (old : Bool) (w : Watcher α) (c : Cache α) : news old w w c c = old := by
  rw [news_of_keeps w.takes_self]
  simp

theorem news_still (old : Bool) (w w' : Watcher α) (c : Cache α) :
    news old w w' c c = (!w.takes w' && old) := by simp [news]

namespace Beholds

theorem found (b : w.Beholds old c h s) : c.slots.find? h.key = some s := b.own ▸ b.there

/-- What a handle tells of a change is that there is news. -/
theorem hasChanged (b : w.Beholds old c h s) : h.hasChanged c = old := by
  rw [Handle.hasChanged_there b.found b.birth, Bool.eq_iff_iff, bne_iff_ne, b.news]

/-- A watcher looks just when there is news. -/
theorem sync (b : w.Beholds old c h s) (held : w.handle = some h) : w.sync c =
    if old then ({ w with handle := some (h.caughtUp c), snapshot := h.current c }, true)
    else (w, false) := by
  rw [Watcher.sync, held]
  dsimp only
  rw [b.hasChanged]

/-- A watcher takes a snapshot just when there is news. -/
theorem takes_sync (b : w.Beholds old c h s) (held : w.handle = some h) :
    w.takes (w.sync c).1 = old := by
  rw [b.sync held]
  cases old with
  | false => exact w.takes_self
  | true =>
    have behind : s.version ≠ h.seen := fun same => (b.news.mp rfl) same.symm
    have marked : h.caughtUp c ≠ h := by
      rw [Handle.caughtUp_there b.found b.birth]
      exact fun same => behind (congrArg Handle.seen same)
    simpa [takes, held] using marked

end Beholds

namespace Abreast

theorem of_away (away : w.handle = none) : w.Abreast old c := fun h held =>
  (Option.some_ne_none h (held.symm.trans away)).elim

/-- What the cache does between two looks is news, or leaves the entry as it is. -/
theorem announced (a : w.Abreast old c)
    (tells : ∀ s, c.slots.find? w.key = some s → s.subscribers ≠ [] → Announced w.key s c') :
    w.Abreast (news old w w c c') c' := by
  intro h held
  obtain ⟨s, b⟩ := a h held
  obtain ⟨s', there, announces⟩ := tells s b.there b.attended
  have flight : (c'.flight? w.key != c.flight? w.key) = true ↔ s'.generation? ≠ s.generation? := by
    rw [flight?_there there, flight?_there b.there, bne_iff_ne]
  refine ⟨s', b.own, there, announces.birth.trans b.birth, announces.subscribers ▸ b.attended, ?_, ?_,
    ?_⟩
  all_goals
    have seen := b.seen
    rcases announces.told with ⟨version, entry, same⟩ | ⟨newer, other⟩
  · omega
  · omega
  · rw [news_of_keeps w.takes_self, Bool.or_eq_true, flight, b.news, version]
    exact or_iff_left (not_not_intro same)
  · rw [news_of_keeps w.takes_self, Bool.or_eq_true, flight]
    exact ⟨fun _ => by omega, fun _ => .inr other⟩
  · rw [version, entry]
    exact b.latest
  · intro latest
    omega

/-- A watcher that has just looked has no news. -/
theorem caughtUp (own : h.key = w.key) (there : c.slots.find? w.key = some s)
    (birth : s.birth = h.birth) (attended : s.subscribers ≠ []) :
    Abreast false c { w with handle := some (h.caughtUp c), snapshot := h.current c } := by
  intro h' held
  have found : c.slots.find? h.key = some s := own ▸ there
  obtain rfl := Option.some.inj held
  rw [Handle.current_there found birth, Handle.caughtUp_there found birth]
  exact ⟨s, own, there, birth, attended, Nat.le_refl _, by simp, fun _ => rfl⟩

theorem sync (a : w.Abreast old c) : (w.sync c).1.Abreast (news old w (w.sync c).1 c c) c := by
  cases held : w.handle with
  | none =>
    have still : w.sync c = (w, false) := by rw [Watcher.sync, held]
    rw [still, news_still, takes_self]
    exact a
  | some h =>
    obtain ⟨s, b⟩ := a h held
    rw [news_still, b.takes_sync held, b.sync held]
    cases old with
    | false => exact a
    | true => exact caughtUp b.own b.there b.birth b.attended

/-- A look shows the entry and leaves no news of it. Its answer is whether there was any. -/
theorem sync_shows (a : w.Abreast old c) (held : w.handle = some h) :
    (w.sync c).1.snapshot = c.entry? w.key ∧ (c.entry? w.key).isSome = true ∧ (w.sync c).2 = old ∧
      news old w (w.sync c).1 c c = false := by
  obtain ⟨s, b⟩ := a h held
  rw [news_still, b.takes_sync held, b.sync held, entry_there b.there]
  cases old with
  | true => exact ⟨Handle.current_there b.found b.birth, rfl, rfl, rfl⟩
  | false =>
    have seen : h.seen = s.version := by
      by_contra behind
      exact Bool.false_ne_true (b.news.mpr behind)
    exact ⟨b.latest seen, rfl, rfl, rfl⟩

end Abreast

theorem Follows.numbered {v : Course α} (f : w.Follows now c v)
    (there : c.slots.find? w.key = some s) : s.Numbered c :=
  f.cache ▸ f.reachable.numbered (f.cache.symm ▸ there)

/-- Between the two looks nothing is lost: a watcher that was abreast of its entry but for the news is
    so afterwards. -/
def Tells (w : Watcher α) (c : Cache α) (w' : Watcher α) (c' : Cache α) : Prop :=
  ∀ old, w.Abreast old c → w'.Abreast (news old w w' c c') c'

namespace Tells

theorem refl (w : Watcher α) (c : Cache α) : w.Tells c w c := fun old a => by
  rw [news_self]
  exact a

theorem away (away : w'.handle = none) : w.Tells c w' c' := fun _ _ => .of_away away

theorem sync (w : Watcher α) (c : Cache α) : w.Tells c (w.sync c).1 c := fun _ a => a.sync

/-- What the cache reported is of no concern to the watcher. -/
theorem unheard (tells : w.Tells c w' c') : w.Tells c w' { c' with journal := [] } :=
  fun old a h held => by
    obtain ⟨s, b⟩ := tells old a h held
    exact ⟨s, b.own, b.there, b.birth, b.attended, b.seen, b.news, b.latest⟩

variable {v : Course α}

theorem invalidate (f : w.Follows now c v) (k : Key) :
    w.Tells c w { (c.invalidate now k).1 with journal := [] } :=
  unheard fun _ a => a.announced fun _ there _ => announced_invalidate there (f.numbered there)

theorem refetch {k : Key} (f : w.Follows now c v) (done : c.refetch now k = .ok c') :
    w.Tells c w { c' with journal := [] } :=
  unheard fun _ a => a.announced fun _ there _ => announced_refetch there (f.numbered there) done

theorem run {σ : Type} (f : w.Follows now c v) (supplier : Supplier σ α) (state : σ) (j : Job) :
    w.Tells c w { (c.runJob supplier now j state).1 with journal := [] } :=
  unheard fun _ a => a.announced fun _ there attended =>
    announced_runJob supplier state j there (f.numbered there) attended

/-- A watcher sees the entry as it is when it begins to take an interest. -/
theorem attach {v' : Course α} (done : w.attach now c = .ok (w', c'))
    (f' : w'.Follows now { c' with journal := [] } v') :
    w.Tells c w' { c' with journal := [] } := fun old a => by
  unfold Watcher.attach at done
  split at done
  · obtain ⟨rfl, rfl⟩ := Prod.mk.inj (Except.ok.inj done)
    exact (refl w c).unheard old a
  · rename_i detached
    split at done
    · rename_i c'' h subscribed
      obtain ⟨rfl, rfl⟩ := Prod.mk.inj (Except.ok.inj done)
      have away : w.handle = none := by simpa [isAttached] using detached
      have ticket := h.ticket_caughtUp c''
      obtain ⟨-, s, -, there, birth, alone⟩ := f'.alone rfl
      have attended : s.subscribers ≠ [] := fun lonely => by
        rw [subscriberCount, there] at alone
        simp [lonely] at alone
      have own : h.key = w.key := (congrArg Ticket.key ticket).symm.trans (f'.own _ rfl)
      rw [news_of_takes (takes_of_away away rfl)]
      exact Abreast.caughtUp own there (birth.trans (congrArg Ticket.birth ticket)) attended
    · simp at done

end Tells

end Watcher

/-! ### The news of both queries -/

namespace Board

variable {b b' b'' : Board}

/-- Nothing that is published of either query is lost between the two boards. -/
structure Tells (b b' : Board) : Prop where
  tasks : b.tasks.Tells b.tasksCache b'.tasks b'.tasksCache
  metrics : b.metrics.Tells b.metricsCache b'.metrics b'.metricsCache

/-- A look that finds a change in either query says so. -/
theorem answer_sync (running : b.paused = false) : b.sync.2 =
    ((b.tasks.sync b.tasksCache).2 || (b.metrics.sync b.metricsCache).2) := by
  unfold sync
  rw [if_neg (by simp [running])]
  dsimp only
  split
  · rename_i changed
    exact changed.symm
  · rename_i same
    exact (Bool.eq_false_iff.mpr same).symm

namespace Tells

/-- What is not of the queries tells nothing of them. -/
theorem of_watch (tells : b.Tells b') (same : b''.watch = b'.watch) : b.Tells b'' := by
  simp only [watch, Prod.mk.injEq] at same
  obtain ⟨watcher, cache, watcher', cache', -⟩ := same
  refine ⟨?_, ?_⟩
  · rw [watcher, cache]
    exact tells.tasks
  · rw [watcher', cache']
    exact tells.metrics

theorem refl (b : Board) : b.Tells b := ⟨.refl _ _, .refl _ _⟩

theorem rests (same : b'.watch = b.watch) : b.Tells b' := (refl b).of_watch same

end Tells

namespace Followed

/-- A board that is started sees both entries as they are. -/
theorem tells_start (f : b.Followed now) : b.Tells (b.start now) := by
  obtain ⟨v, follows⟩ := f.tasks
  obtain ⟨v', follows'⟩ := f.metrics
  obtain ⟨w, c, u, done, -, -, -, attached⟩ := follows.attach (f.tasksKey ▸ rfl)
  obtain ⟨w', c', u', done', -, -, -, attached'⟩ := follows'.attach (f.metricsKey ▸ rfl)
  have first : (b.attachTasks now).watch =
      (w, { c with journal := [] }, b.metrics, b.metricsCache, b.paused) := by
    unfold Board.attachTasks
    rw [done]
    dsimp only
    split <;> rfl
  simp only [watch, Prod.mk.injEq] at first
  obtain ⟨watcher, cache, watcher', cache', -⟩ := first
  have second : (b.start now).watch =
      (w, { c with journal := [] }, w', { c' with journal := [] }, (b.start now).paused) := by
    rw [Board.start, Board.attachMetrics, watcher', cache', done', ← watcher, ← cache]
    dsimp only
    split <;> rfl
  have both : b.Tells { b with
      tasks := w, tasksCache := { c with journal := [] }
      metrics := w', metricsCache := { c' with journal := [] }
      paused := (b.start now).paused } :=
    ⟨.attach done attached, .attach done' attached'⟩
  exact both.of_watch second

theorem tells_stop (f : b.Followed now) : b.Tells (b.stop now) := by
  obtain ⟨-, -, away, away'⟩ := f.stop
  exact ⟨.away away, .away away'⟩

theorem tells_togglePause (f : b.Followed now) : b.Tells (b.togglePause now) := by
  cases running : b.paused with
  | false =>
    have stopped := (Linked.followed_paused f true).tells_stop
    have same : b.Tells (Board.stop now { b with paused := true }) := ⟨stopped.tasks, stopped.metrics⟩
    exact same.of_watch (watch_togglePause_running now running)
  | true =>
    have started := (Linked.followed_paused f false).tells_start
    have same : b.Tells (Board.start now { b with paused := false }) := ⟨started.tasks, started.metrics⟩
    exact same.of_watch (watch_togglePause_paused now running)

theorem tells_invalidate (f : b.Followed now) : b.Tells (b.invalidate now) := by
  obtain ⟨v, follows⟩ := f.tasks
  obtain ⟨v', follows'⟩ := f.metrics
  exact ⟨.invalidate follows _, .invalidate follows' _⟩

theorem tells_refresh (f : b.Followed now) : b.Tells (b.refresh now) := by
  obtain ⟨v, follows⟩ := f.tasks
  obtain ⟨v', follows'⟩ := f.metrics
  unfold Board.refresh
  split
  · exact .rests rfl
  · split
    · exact .rests rfl
    · rename_i c done
      dsimp only
      split
      · exact ⟨.refetch follows done, .refl _ _⟩
      · rename_i c' done'
        exact ⟨.refetch follows done, .refetch follows' done'⟩

theorem tells_sync (b : Board) : b.Tells b.sync.1 := by
  cases running : b.paused with
  | true =>
    rw [sync_paused running]
    exact .refl b
  | false =>
    have seen : b.Tells { b with
        tasks := (b.tasks.sync b.tasksCache).1, metrics := (b.metrics.sync b.metricsCache).1 } :=
      ⟨.sync _ _, .sync _ _⟩
    refine seen.of_watch ?_
    rw [watch_sync running, watch, running]

/-- An event loses nothing that is published. -/
theorem tells_deals (f : b.Followed now) (deals : Deals now b b') : b.Tells b' := by
  cases deals with
  | rests watch moves => exact .rests watch
  | toggles => exact f.tells_togglePause
  | refreshes => exact f.tells_refresh
  | stales watch selected => exact f.tells_invalidate.of_watch watch

end Followed

end Board

namespace Shift

variable {t t' : Shift}

/-- A step loses nothing that is published of either query. -/
theorem Stir.tells (stir : Stir t t') (f : t.board.Followed t.now) : t.board.Tells t'.board := by
  cases stir with
  | deals now deals board => exact board ▸ (f.tells_deals deals).of_watch rfl
  | looks now board => exact board ▸ (Followed.tells_sync t.board).of_watch rfl
  | tasks supplier state listed due now board =>
    obtain ⟨v, follows⟩ := f.tasks
    rw [board]
    exact ⟨.run follows supplier state _, .refl _ _⟩
  | metrics supplier state listed due now board =>
    obtain ⟨v, follows⟩ := f.metrics
    rw [board]
    exact ⟨.refl _ _, .run follows supplier state _⟩
  | passes later board => exact board ▸ .refl _

end Shift

/-! ### Runs with their news -/

/-- A board at work, and whether there is news of either query: something that was published since the
    board took the snapshot that it shows. -/
structure News where
  shift : Shift
  tasks : Bool := false
  metrics : Bool := false

namespace News

open Relation

variable {n n' : News} {t t' : Shift}

/-- The news once a step has led to this shift. -/
def after (n : News) (t : Shift) : News where
  shift := t
  tasks := n.shift.board.tasks.news n.tasks t.board.tasks n.shift.board.tasksCache t.board.tasksCache
  metrics := n.shift.board.metrics.news n.metrics t.board.metrics n.shift.board.metricsCache
    t.board.metricsCache

/-- A step of the shift, and what there is news of after it. -/
inductive Step : News → News → Prop
  | of {n : News} {t : Shift} (step : Shift.Step n.shift t) : Step n (n.after t)

/-- The shifts that steps can lead to once the board was started, with their news. A board that was
    just started has taken both snapshots. -/
def Started (n : News) : Prop :=
  ∃ grace tasksOptions metricsOptions selected now, ReflTransGen Step
    { shift := Shift.started grace tasksOptions metricsOptions selected now } n

theorem leads_shift (leads : ReflTransGen Step n n') : n.shift.Leads n'.shift := by
  induction leads with
  | refl => exact .refl
  | tail _ step ih =>
    obtain ⟨step⟩ := step
    exact ih.tail step

theorem Started.shift (hn : n.Started) : n.shift.Started := by
  obtain ⟨grace, tasksOptions, metricsOptions, selected, now, leads⟩ := hn
  exact ⟨grace, tasksOptions, metricsOptions, selected, now, leads_shift leads⟩

/-- Whatever a shift does, its news can be told. -/
theorem of_leads (leads : n.shift.Leads t) : ∃ n', ReflTransGen Step n n' ∧ n'.shift = t := by
  induction leads with
  | refl => exact ⟨n, .refl, rfl⟩
  | tail _ step ih =>
    obtain ⟨n', leads, rfl⟩ := ih
    exact ⟨_, leads.tail (.of step), rfl⟩

/-- Both watchers have seen their entries as they are, but for the news. -/
structure Abreast (n : News) : Prop where
  tasks : n.shift.board.tasks.Abreast n.tasks n.shift.board.tasksCache
  metrics : n.shift.board.metrics.Abreast n.metrics n.shift.board.metricsCache

theorem Step.abreast (step : Step n n') (f : n.shift.board.Followed n.shift.now) (a : n.Abreast) :
    n'.Abreast := by
  obtain ⟨step⟩ := step
  have tells := step.stir.tells f
  exact ⟨tells.tasks _ a.tasks, tells.metrics _ a.metrics⟩

/-- A board that was just started has seen both entries. -/
theorem abreast_started (grace : Nat) (tasksOptions metricsOptions : Options)
    (selected : Option String) (now : Time.Instant) :
    Abreast { shift := Shift.started grace tasksOptions metricsOptions selected now } := by
  let begun := Shift.fresh grace tasksOptions metricsOptions selected now
  have fresh : begun.board.Followed now :=
    ⟨⟨_, Shift.follows_fresh grace now _ _⟩, ⟨_, Shift.follows_fresh grace now _ _⟩, rfl, rfl⟩
  obtain ⟨-, attached, attached'⟩ := fresh.start
  have tells := fresh.tells_start
  have tasks := tells.tasks false (.of_away rfl)
  have metrics := tells.metrics false (.of_away rfl)
  rw [Watcher.news_of_takes (Watcher.takes_of_away rfl attached)] at tasks
  rw [Watcher.news_of_takes (Watcher.takes_of_away rfl attached')] at metrics
  exact ⟨tasks, metrics⟩

theorem Started.abreast (hn : n.Started) : n.Abreast := by
  obtain ⟨grace, tasksOptions, metricsOptions, selected, now, leads⟩ := hn
  induction leads with
  | refl => exact abreast_started grace tasksOptions metricsOptions selected now
  | tail before step ih =>
    have before : Started _ := ⟨grace, tasksOptions, metricsOptions, selected, now, before⟩
    exact step.abreast before.shift.linked.followed ih

/-- The news after several moves. -/
def plays (n : News) (moves : List Shift.Move) : News :=
  moves.foldl (fun n m => n.after (n.shift.play m)) n

theorem leads_plays : ∀ (moves : List Shift.Move) (n : News), ReflTransGen Step n (n.plays moves)
  | [], _ => .refl
  | m :: rest, n => by
    have first : ReflTransGen Step n (n.after (n.shift.play m)) := by
      rcases Shift.step_play n.shift m with same | step
      · have nothing : n.after n.shift = n := by simp [after, Watcher.news_self]
        rw [same, nothing]
      · exact .single (.of step)
    exact first.trans (leads_plays rest _)

end News

/-- In every run of a board that was started, together with its news: whenever updates are not paused,
    a look shows both entries exactly as the caches hold them, and both are there. It answers that
    there was a change just when there was news of one query or the other, and leaves none of
    either. -/
theorem look_shows_caches {n : News} (hn : n.Started) (running : n.shift.board.paused = false) :
    let b := n.shift.board.sync.1
    (b.tasks.snapshot = b.tasksCache.entry? tasksKey ∧ b.tasks.snapshot.isSome = true) ∧
    (b.metrics.snapshot = b.metricsCache.entry? metricsKey ∧ b.metrics.snapshot.isSome = true) ∧
    (n.shift.board.sync.2 = true ↔ n.tasks = true ∨ n.metrics = true) ∧
    (n.after n.shift.look).tasks = false ∧ (n.after n.shift.look).metrics = false := by
  intro b
  have l := hn.shift.linked
  have abreast := hn.abreast
  obtain ⟨attached, attached'⟩ := l.attached running
  obtain ⟨h, held⟩ := Option.isSome_iff_exists.mp attached
  obtain ⟨h', held'⟩ := Option.isSome_iff_exists.mp attached'
  obtain ⟨shows, there, answer, seen⟩ := abreast.tasks.sync_shows held
  obtain ⟨shows', there', answer', seen'⟩ := abreast.metrics.sync_shows held'
  have looked := watch_sync running
  simp only [watch, Prod.mk.injEq] at looked
  obtain ⟨watcher, cache, watcher', cache', -⟩ := looked
  rw [l.followed.tasksKey] at shows there
  rw [l.followed.metricsKey] at shows' there'
  refine ⟨?_, ?_, ?_, ?_, ?_⟩
  · rw [watcher, cache, shows]
    exact ⟨rfl, there⟩
  · rw [watcher', cache', shows']
    exact ⟨rfl, there'⟩
  · rw [answer_sync running, answer, answer', Bool.or_eq_true]
  · show Watcher.news _ _ n.shift.board.sync.1.tasks _ n.shift.board.sync.1.tasksCache = false
    rw [watcher, cache, seen]
  · show Watcher.news _ _ n.shift.board.sync.1.metrics _ n.shift.board.sync.1.metricsCache = false
    rw [watcher', cache', seen']

/-- The tasks arrive after a look that showed that both queries are fetched. The next look tells of them,
    though there is no news of the headline numbers, and the one after that tells of nothing. -/
theorem news_of_one_query_shown :
    let begun : News := { shift := Shift.played [] }
    let n := begun.plays [.tasks 1 10 (.ok sampleTasks), .metrics 1 20 (.error "down"), .look,
      .pass 10, .tasks 1 0 (.ok sampleTasks)]
    n.Started ∧ n.shift.board.paused = false ∧ n.tasks = true ∧ n.metrics = false ∧
      n.shift.board.sync.2 = true ∧ n.shift.board.sync.1.rows = sampleTasks ∧
      n.shift.board.sync.1.tasks.snapshot = n.shift.board.sync.1.tasksCache.entry? tasksKey ∧
      n.shift.look.board.sync.2 = false := by
  intro begun n
  have hn : n.Started := ⟨_, _, _, _, _, News.leads_plays _ begun⟩
  have running : n.shift.board.paused = false := by decide +kernel
  have tasks : n.tasks = true := by decide +kernel
  obtain ⟨⟨shown, -⟩, -, answer, -⟩ := look_shows_caches hn running
  exact ⟨hn, running, tasks, by decide +kernel, answer.mpr (.inl tasks), by decide +kernel, shown,
    by decide +kernel⟩

end TaskWatch
