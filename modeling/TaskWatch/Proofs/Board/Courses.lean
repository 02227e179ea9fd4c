import TaskWatch.Proofs.Cache.Counted
import TaskWatch.Proofs.Cache.Seen
import TaskWatch.Watcher

/-! A watcher and the course of its cache.

    Whatever a watcher does to its cache is done in a course in which nobody else holds a handle
    (`Watcher.Follows`), and each of its operations leads that course on. So all that holds of courses
    holds of the cache of a watcher: while it takes an interest it is the only subscriber of an entry
    that is there, and while it does not, nobody is a subscriber, and nothing starts a fetch but a
    subscription or a request for one. -/

namespace TaskWatch

open Cache

variable {α : Type} {now now' : Time.Instant} {w w' : Watcher α} {c c' : Cache α} {k : Key}
  {h : Handle}

/-! ### Courses in which little is done -/

namespace Cache.Course

variable {v v' : Course α}

/-- Only giving the cache up gives it up. -/
theorem Step.abandoned (step : Step v v')
    (plain : ∀ n, v'.past = n :: v.past → n.deed.sign? = none) :
    v'.cache.abandoned = v.cache.abandoned := by
  cases step.effect with
  | changed deed handles said changes => exact congrArg (·.2.2) changes.kept
  | dropped deed abandoned events said quiet => exact nomatch said.symm.trans (plain _ rfl)
  | answered waits calls => rfl
  | passed now handles later => rfl

/-- A deed that starts no fetch counts none. -/
theorem Step.fetches (step : Step v v') (hv : v.Reachable)
    (idle : ∀ n, v'.past = n :: v.past → ∀ k, ¬ n.deed.Starts v.cache k) :
    v'.cache.stats.fetches = v.cache.stats.fetches := by
  rcases step.counted hv with ⟨-, stats, -⟩ | ⟨n, past, accounts⟩
  · rw [stats]
  · rcases step.reports hv.booked with ⟨same, -⟩ | ⟨n', past', tells⟩
    · exact (List.cons_ne_self _ _ (past.symm.trans same)).elim
    · obtain rfl := (List.cons.inj (past'.symm.trans past)).1
      have none_started : Cache.starts n'.events = [] := by
        refine List.filterMap_eq_nil_iff.mpr fun e listed => ?_
        cases e with
        | started k g => exact (idle n' past k (tells.started k g listed)).elim
        | _ => rfl
      rw [accounts.fetches, none_started, List.length_nil, Nat.add_zero]

/-- As long as nobody is interested in anything, only a subscription or a request starts a fetch. -/
theorem Step.fetches_lonely (step : Step v v') (hv : v.Reachable)
    (lonely : ∀ k, v.cache.subscriberCount k = 0)
    (plain : ∀ n, v'.past = n :: v.past →
      (∀ k, n.deed ≠ .refetch k) ∧ ∀ k producer o, n.deed ≠ .subscribe k producer o) :
    v'.cache.stats.fetches = v.cache.stats.fetches :=
  step.fetches hv fun n past k starts => by
    rcases hv.starts_lonely starts (lonely k) with asked | ⟨producer, o, asked⟩
    · exact (plain n past).1 k asked
    · exact (plain n past).2 k producer o asked

end Cache.Course

theorem Cache.clearedSince_of_kept {i : Nat} : ∀ {past : List (Note α)},
    (∀ n ∈ past, n.deed.sign? = none) → clearedSince i past = false
  | [], _ => rfl
  | n :: rest, kept => by
    obtain ⟨first, others⟩ := List.forall_mem_cons.mp kept
    rw [clearedSince, first, clearedSince_of_kept others]
    simp

/-- The one handle that is held has a place among all those given out. -/
theorem Cache.place_of_only : ∀ {handles : List (Option Handle)}, handles.filterMap id = [h] →
    ∃ i : Nat, handles[i]? = some (some h) ∧
      ∀ x : Option Handle, (handles.set i x).filterMap id = x.toList
  | none :: rest, only => by
    rw [List.filterMap_cons_none rfl] at only
    obtain ⟨i, held, others⟩ := place_of_only only
    exact ⟨i + 1, held, others⟩
  | some h' :: rest, only => by
    rw [List.filterMap_cons_some (f := id) rfl] at only
    obtain ⟨rfl, none_left⟩ := List.cons.inj only
    refine ⟨0, rfl, fun x => ?_⟩
    rw [List.set_cons_zero]
    cases x with
    | none => rw [List.filterMap_cons_none rfl, none_left, Option.toList_none]
    | some h' => rw [List.filterMap_cons_some (f := id) rfl, none_left]; rfl

namespace Watcher

theorem key_sync (w : Watcher α) (c : Cache α) : (w.sync c).1.key = w.key := by
  unfold Watcher.sync
  split
  · split <;> rfl
  · rfl

theorem isAttached_sync (w : Watcher α) (c : Cache α) : (w.sync c).1.isAttached = w.isAttached := by
  unfold Watcher.sync
  split
  · rename_i h held
    split
    · exact (congrArg Option.isSome held).symm
    · rfl
  · rfl

/-! ### The course that a watcher follows -/

/-- The cache of the watcher is at this point of a course. The watcher holds the only handle, if it
    holds one, and nothing was ever cleared. -/
structure Follows (now : Time.Instant) (c : Cache α) (w : Watcher α) (v : Course α) : Prop where
  reachable : v.Reachable
  now : v.now = now
  cache : v.cache = c
  alive : c.abandoned = false
  held : v.handles.filterMap id = w.handle.toList
  own : ∀ h, w.handle = some h → h.key = w.key
  kept : ∀ n ∈ v.past, n.deed.sign? = none

namespace Follows

variable {v v' : Course α}

theorem booked (f : w.Follows now c v) : c.journal = [] := f.cache ▸ f.reachable.booked

theorem held_of_holder (f : w.Follows now c v) {i : Nat} (held : v.holder? i = some h) :
    w.handle = some h := by
  have listed : h ∈ v.handles.filterMap id :=
    List.mem_filterMap.mpr ⟨some h, List.mem_of_getElem? (heldAt_eq_some.mp held), rfl⟩
  rw [f.held] at listed
  exact Option.mem_toList.mp listed

/-- A watcher that takes no interest leaves no subscriber behind. -/
theorem lonely (f : w.Follows now c v) (away : w.handle = none) (k : Key) :
    c.subscriberCount k = 0 := by
  have nobody : v.holders k = [] := List.filterMap_eq_nil_iff.mpr fun i _ =>
    Option.eq_none_iff_forall_ne_some.mpr fun h held =>
      Option.some_ne_none h ((f.held_of_holder held).symm.trans away)
  rw [← f.cache, subscriberCount_tickets, f.reachable.rows, nobody]
  rfl

/-- A watcher that takes an interest is the only subscriber of an entry that is there. -/
theorem alone (f : w.Follows now c v) (held : w.handle = some h) :
    ∃ i s, v.holder? i = some h ∧ c.slots.find? w.key = some s ∧ s.birth = h.birth ∧
      c.subscriberCount w.key = 1 := by
  obtain ⟨i, place, -⟩ := place_of_only (f.held.trans (by rw [held]; rfl))
  have holder : v.holder? i = some h := heldAt_eq_some.mpr place
  have listed := (f.reachable.handed_iff holder).mpr (clearedSince_of_kept f.kept)
  obtain ⟨s, there, birth, -⟩ := f.reachable.view holder listed
  rw [f.own h held] at listed
  have all_same : ∀ h' ∈ v.holders w.key, h' = h := fun h' member => by
    obtain ⟨j, -, held'⟩ := Course.mem_holders.mp member
    exact Option.some.inj ((f.held_of_holder held').symm.trans held)
  have holders : v.holders w.key = [h] := by
    have once := (f.reachable.holders_nodup w.key).of_map
    rw [List.eq_replicate_of_mem all_same, List.nodup_replicate] at once
    have some_one := List.length_pos_of_mem (Course.mem_holders.mpr ⟨i, listed, holder⟩)
    rw [List.eq_replicate_of_mem all_same, show (v.holders w.key).length = 1 by omega]
    rfl
  refine ⟨i, s, holder, ?_, birth, ?_⟩
  · rw [← f.cache, ← f.own h held]
    exact there
  · rw [← f.cache, subscriberCount_tickets, f.reachable.rows, holders]
    rfl

/-! ### What leads the course on -/

/-- A step of the course in which nothing is cleared. -/
theorem step (f : w.Follows now c v) (step : Course.Step v v')
    (plain : ∀ n, v'.past = n :: v.past → n.deed.sign? = none)
    (held : v'.handles.filterMap id = w'.handle.toList)
    (own : ∀ h, w'.handle = some h → h.key = w'.key) : w'.Follows v'.now v'.cache v' where
  reachable := f.reachable.leads (.single step)
  now := rfl
  cache := rfl
  alive := (step.abandoned plain).trans (f.cache ▸ f.alive)
  held := held
  own := own
  kept n listed := by
    rcases step.books with past | ⟨n', past⟩
    · exact f.kept n (past ▸ listed)
    · rw [past] at listed
      rcases List.mem_cons.mp listed with rfl | listed
      · exact plain n past
      · exact f.kept n listed

/-- A deed that concerns no handle. -/
theorem after (f : w.Follows now c v) {deed : Deed α} (step : Course.Step v (v.after deed c'))
    (plain : deed.sign? = none) : w.Follows now { c' with journal := [] } (v.after deed c') := by
  obtain rfl := f.now
  exact f.step step (fun n past => (List.cons.inj past).1 ▸ plain) f.held f.own

/-- What books nothing clears nothing. -/
theorem plain_of_past (past : v'.past = v.past) (n : Note α) (booked : v'.past = n :: v.past) :
    n.deed.sign? = none := (List.cons_ne_self _ _ (booked.symm.trans past)).elim

/-- The clock moves on. -/
theorem pass (f : w.Follows now c v) (later : now.elapsed ≤ now'.elapsed) :
    w.Follows now' c { v with now := now' } := by
  obtain rfl := f.now
  obtain rfl := f.cache
  exact f.step (.pass now' later) (plain_of_past rfl) f.held f.own

theorem invalidate (f : w.Follows now c v) (k : Key) :
    Course.Step v (v.after (.invalidate k) (c.invalidate now k).1) ∧
      w.Follows now { (c.invalidate now k).1 with journal := [] }
        (v.after (.invalidate k) (c.invalidate now k).1) := by
  obtain rfl := f.now
  obtain rfl := f.cache
  have step : Course.Step v (v.after (.invalidate k) (v.cache.invalidate v.now k).1) :=
    .invalidate k f.alive
  exact ⟨step, f.after step rfl⟩

theorem refetch (f : w.Follows now c v) (done : c.refetch now k = .ok c') :
    w.Follows now { c' with journal := [] } (v.after (.refetch k) c') := by
  obtain rfl := f.now
  obtain rfl := f.cache
  exact f.after (.refetch k f.alive done) rfl

/-- The entry of a watcher that takes an interest can be fetched anew. -/
theorem can_refetch (f : w.Follows now c v) (held : w.handle = some h) :
    ∃ c', c.refetch now w.key = .ok c' := by
  obtain ⟨-, s, -, there, -⟩ := f.alone held
  exact ⟨_, by rw [Cache.refetch, there]; rfl⟩

theorem run {σ : Type} (f : w.Follows now c v) (supplier : Supplier σ α) (state : σ) {j : Job}
    (listed : j ∈ c.agenda) (due : j.isDue now.elapsed = true) :
    Course.Step v
        (v.after (.run j (supplier.answer? j state)) (c.runJob supplier now j state).1) ∧
      w.Follows now { (c.runJob supplier now j state).1 with journal := [] }
        (v.after (.run j (supplier.answer? j state)) (c.runJob supplier now j state).1) := by
  obtain rfl := f.now
  obtain rfl := f.cache
  have step : Course.Step v
      (v.after (.run j (supplier.answer? j state)) (v.cache.runJob supplier v.now j state).1) :=
    .run supplier state listed due
  exact ⟨step, f.after step rfl⟩

/-- The watcher looks through its handle. -/
theorem look (f : w.Follows now c v) (held : w.handle = some h) (snapshot : Option (Entry α)) :
    ∃ v', Course.Step v v' ∧
      Follows now c { w with handle := some (h.caughtUp c), snapshot } v' := by
  obtain rfl := f.now
  obtain rfl := f.cache
  obtain ⟨i, place, others⟩ := place_of_only (f.held.trans (by rw [held]; rfl))
  have step : Course.Step v { v with handles := v.handles.set i (some (h.caughtUp v.cache)) } :=
    .look i place
  have own : ∀ h', some (h.caughtUp v.cache) = some h' → h'.key = w.key := fun h' same => by
    have key : (h.caughtUp v.cache).key = h.key := congrArg Ticket.key (h.ticket_caughtUp v.cache)
    rw [← Option.some.inj same, key, f.own h held]
  exact ⟨_, step, f.step step (plain_of_past rfl) (others _) own⟩

theorem sync (f : w.Follows now c v) :
    ∃ v', v.Leads v' ∧ (w.sync c).1.Follows now c v' := by
  unfold Watcher.sync
  split
  · rename_i h held
    split
    · obtain ⟨v', step, f'⟩ := f.look held (h.current c)
      exact ⟨v', .single step, f'⟩
    · exact ⟨v, .refl, f⟩
  · exact ⟨v, .refl, f⟩

/-- A watcher can always begin to take an interest. -/
theorem attach (f : w.Follows now c v) (valid : w.key.isValid = true) :
    ∃ w' c' v', w.attach now c = .ok (w', c') ∧ w'.isAttached = true ∧ w'.key = w.key ∧
      v.Leads v' ∧ w'.Follows now { c' with journal := [] } v' := by
  unfold Watcher.attach
  cases held : w.handle with
  | some h =>
    have attached : w.isAttached = true := by rw [isAttached, held]; rfl
    have same : { c with journal := [] } = c := by rw [← f.booked]
    exact ⟨w, c, v, by rw [if_pos attached], attached, rfl, .refl, same ▸ f⟩
  | none =>
    obtain rfl := f.now
    obtain rfl := f.cache
    have away : w.isAttached = false := by rw [isAttached, held]; rfl
    obtain ⟨c', h, done⟩ : ∃ c' h, v.cache.subscribe v.now w.key w.producer w.options = .ok (c', h) := by
      rw [subscribe, if_neg (by simp [valid])]
      exact ⟨_, _, rfl⟩
    have step := Course.Step.subscribe w.key w.producer w.options f.alive done
    have only : (v.handles ++ [some h]).filterMap id = [h] := by
      rw [List.filterMap_append, f.held, held]
      rfl
    have own : ∀ h', some h = some h' → h'.key = w.key := fun h' same =>
      Option.some.inj same ▸ (tickets_subscribe done).2.1
    have subscribed : Follows v.now { c' with journal := [] } { w with handle := some h } _ :=
      f.step step (fun n past => (List.cons.inj past).1 ▸ rfl) only own
    obtain ⟨v', step', f'⟩ := subscribed.look rfl (h.current c')
    refine ⟨{ w with handle := some (h.caughtUp c'), snapshot := h.current c' }, c', v', ?_, rfl, rfl,
      (Relation.ReflTransGen.single step).tail step', f'⟩
    rw [if_neg (by simp [away]), done]

/-- A watcher that stops taking an interest starts no fetch, and shows what it saw last. -/
theorem detach (f : w.Follows now c v) :
    ∃ v', v.Leads v' ∧
      (w.detach now c).1.Follows now { (w.detach now c).2 with journal := [] } v' ∧
      (w.detach now c).1 = { w with handle := none } ∧
      (w.detach now c).2.stats.fetches = c.stats.fetches := by
  unfold Watcher.detach
  cases held : w.handle with
  | none =>
    have same : { c with journal := [] } = c := by rw [← f.booked]
    have still : w = { w with handle := none } := by rw [← held]
    exact ⟨v, .refl, same ▸ f, still, rfl⟩
  | some h =>
    obtain rfl := f.now
    obtain rfl := f.cache
    obtain ⟨i, place, others⟩ := place_of_only (f.held.trans (by rw [held]; rfl))
    have step := Course.Step.unsubscribe i f.alive place
    have unstarted := step.fetches f.reachable fun n past k starts => by
      obtain rfl := (List.cons.inj past).1
      exact nomatch starts
    exact ⟨_, .single step, f.step step (fun n past => (List.cons.inj past).1 ▸ rfl) (others none) nofun,
      rfl, unstarted⟩

/-! ### While the watcher takes no interest -/

theorem fetches_invalidate (f : w.Follows now c v) (away : w.handle = none) (k : Key) :
    (c.invalidate now k).1.stats.fetches = c.stats.fetches := by
  have quiet := (f.invalidate k).1.fetches_lonely f.reachable
    (fun l => f.cache.symm ▸ f.lonely away l) fun n past => by
      obtain rfl := (List.cons.inj past).1
      exact ⟨nofun, nofun⟩
  exact quiet.trans (congrArg (·.stats.fetches) f.cache)

theorem fetches_run {σ : Type} (f : w.Follows now c v) (away : w.handle = none)
    (supplier : Supplier σ α) (state : σ) {j : Job} (listed : j ∈ c.agenda)
    (due : j.isDue now.elapsed = true) :
    (c.runJob supplier now j state).1.stats.fetches = c.stats.fetches := by
  have quiet := (f.run supplier state listed due).1.fetches_lonely f.reachable
    (fun l => f.cache.symm ▸ f.lonely away l) fun n past => by
      obtain rfl := (List.cons.inj past).1
      exact ⟨nofun, nofun⟩
  exact quiet.trans (congrArg (·.stats.fetches) f.cache)

end Follows

end Watcher

end TaskWatch
