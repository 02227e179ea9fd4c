import Mathlib.Order.Bounds.Basic
import TaskWatch.Proofs.Cache.Reports

/-! When queries are fetched, and why.

    A timer stands on the agenda for as long as a subscriber asks for scheduled fetches, and polls at
    the shortest interval that one asks for; `timers` is the view on the agenda. A fetch is started only
    if somebody subscribes, somebody asks for it, the entry is invalidated while it has subscribers, or
    its timer ticks. So an entry that nobody polls is never fetched on schedule. -/

namespace TaskWatch.Cache

variable {α : Type} {now : Time.Instant} {k l : Key} {c c' : Cache α} {s : Slot α} {p : Nat}

/-! ### Intervals and timers -/

/-- A subscriber asked for scheduled fetches at this interval, and none at a shorter one. -/
def Slot.Shortest (s : Slot α) (p : Nat) : Prop :=
  IsLeast {i | i ≠ 0 ∧ ∃ id, (id, i) ∈ s.subscribers} p

theorem Slot.period?_eq_some : s.period? = some p ↔ s.Shortest p := by
  have asked (i : Nat) : i ∈ (s.subscribers.map Prod.snd).filter (fun i => i != 0) ↔
      i ≠ 0 ∧ ∃ id, (id, i) ∈ s.subscribers := by
    simp [and_comm]
  rw [period?, List.min?_eq_some_iff, asked]
  refine and_congr_right fun _ => forall_congr' fun i => ?_
  rw [asked]
  rfl

/-- Nobody polls an entry without subscribers. -/
theorem Slot.not_shortest_of_lonely (lonely : s.subscribers = []) : ¬ s.Shortest p := by
  rintro ⟨⟨-, id, listed⟩, -⟩
  rw [lonely] at listed
  exact nomatch listed

/-- How often the job polls, if it is a timer. -/
def Job.period? (j : Job) : Option Nat :=
  match j.duty with
  | .poll period => some period
  | _ => none

theorem Job.period?_eq_some {j : Job} : j.period? = some p ↔ j.duty = .poll p := by
  unfold period?
  cases j.duty <;> simp

theorem Job.isTimer_of_poll {j : Job} (duty : j.duty = .poll p) : j.isTimer = true := by
  rw [isTimer, duty]

theorem Duty.post?_eq_poll {d : Duty} : d.post? = some (.poll p) ↔ d = .poll p := by
  cases d <;> simp [post?]

namespace Course

variable {w w' : Course α}

/-- The live timers of a query. -/
def timers (w : Course α) (k : Key) : List Job :=
  w.cache.agenda.filter (fun j => j.key == k && j.period?.isSome)

theorem mem_timers {j : Job} :
    j ∈ w.timers k ↔ j ∈ w.cache.agenda ∧ j.key = k ∧ ∃ period, j.duty = .poll period := by
  simp [timers, Option.isSome_iff_exists, Job.period?_eq_some]

/-- A live timer is the one of the slot, and ticks at the shortest interval. -/
theorem Reachable.of_timer (hw : w.Reachable) {j : Job} (listed : j ∈ w.cache.agenda)
    (duty : j.duty = .poll p) : ∃ s, w.cache.slots.find? j.key = some s ∧ s.Shortest p ∧
      s.timer = some { period := p, job := j.number } := by
  have tended := hw.tended (k := j.key)
  obtain ⟨s, there, awaits⟩ := tended.posted j listed rfl (Job.isTimer_of_poll duty)
  rcases awaits with ⟨period, polls, runs⟩ | ⟨token, collects, -⟩
  · obtain rfl := Duty.poll.inj (polls.symm.trans duty)
    have timed := tended.timed s there
    rw [runs, Option.map_some] at timed
    exact ⟨s, there, Slot.period?_eq_some.mp timed.symm, runs⟩
  · exact nomatch collects.symm.trans duty

/-- A query has one timer at most. -/
theorem Reachable.timer_unique {i j : Job} {q : Nat} (hw : w.Reachable) (hi : i ∈ w.cache.agenda)
    (hj : j ∈ w.cache.agenda) (same : i.key = j.key) (polls : i.duty = .poll p)
    (polls' : j.duty = .poll q) : i = j := by
  obtain ⟨s, there, -, runs⟩ := hw.of_timer hi polls
  obtain ⟨s', there', -, runs'⟩ := hw.of_timer hj polls'
  obtain rfl := Option.some.inj (there.symm.trans (same ▸ there'))
  exact hw.staffed.numbered.job hi hj (congrArg Timer.job (Option.some.inj (runs.symm.trans runs')))

theorem Reachable.only_timer {i j : Job} (hw : w.Reachable) (hi : i ∈ w.timers k)
    (hj : j ∈ w.timers k) : i = j := by
  obtain ⟨hi, own, p, duty⟩ := mem_timers.mp hi
  obtain ⟨hj, own', q, duty'⟩ := mem_timers.mp hj
  exact hw.timer_unique hi hj (own.trans own'.symm) duty duty'

/-- An entry that is polled has one timer. -/
theorem Reachable.timers_polled (hw : w.Reachable) (there : w.cache.slots.find? k = some s)
    (shortest : s.Shortest p) : ∃ j, w.timers k = [j] ∧ j.duty = .poll p := by
  have timed := hw.tended.timed s there
  rw [Slot.period?_eq_some.mpr shortest] at timed
  obtain ⟨t, runs, rfl⟩ := Option.map_eq_some_iff.mp timed
  obtain ⟨j, listed, rfl, -, post⟩ := hw.staffed.named k s _ _ there (.timer runs)
  have duty := Duty.post?_eq_poll.mp post
  have fits := mem_timers.mpr ⟨listed, rfl, _, duty⟩
  refine ⟨j, ?_, duty⟩
  refine hw.staffed.numbered.filter_eq_singleton listed (List.mem_filter.mp fits).2 ?_
  intro i hi fits'
  exact congrArg Job.number (hw.only_timer (List.mem_filter.mpr ⟨hi, fits'⟩) fits)

/-- A query has a timer only if it has an entry that is polled. -/
theorem Reachable.timers_unpolled (hw : w.Reachable)
    (unpolled : ∀ s, w.cache.slots.find? k = some s → ∀ p, ¬ s.Shortest p) : w.timers k = [] := by
  refine List.eq_nil_iff_forall_not_mem.mpr fun j hj => ?_
  obtain ⟨listed, rfl, p, duty⟩ := mem_timers.mp hj
  obtain ⟨s, there, shortest, -⟩ := hw.of_timer listed duty
  exact unpolled s there p shortest

end Course

/-! ### Fetches that are started -/

/-- Only the report of a start is a sign of a start. -/
theorem started_sign {e : Event} {answer : Option (Except String α)} {sign : Sign α} {g : Nat}
    (said : e.sign? k answer = some sign) (start : sign.started? = some g) : e = .started k g := by
  cases sign with
  | started g' =>
    obtain rfl : g' = g := Option.some.inj start
    cases e with
    | started l g =>
      by_cases own : l = k
      · simpa [Event.sign?, own] using said
      · simp [Event.sign?, own] at said
    | committed l g =>
      rcases answer with _ | message | a <;> simp [Event.sign?] at said
    | _ => simp [Event.sign?] at said
  | _ => simp [Sign.started?] at start

/-- A fetch was started if that was reported. -/
theorem mem_started_note {n : Note α} {g : Nat} (begun : g ∈ History.started (n.signs k)) :
    Event.started k g ∈ n.events := by
  obtain ⟨x, hx, start⟩ := List.mem_filterMap.mp begun
  rcases List.mem_append.mp hx with said | said
  · obtain ⟨sign, own, rfl⟩ := List.mem_map.mp said
    obtain rfl : sign = .cleared := by
      cases deed : n.deed <;> simp [Deed.sign?, deed] at own <;> exact own
    exact nomatch start
  · obtain ⟨sign, among, rfl⟩ := List.mem_map.mp said
    obtain ⟨e, reported, said⟩ := List.mem_filterMap.mp among
    exact started_sign said start ▸ reported

namespace Course

variable {w w' : Course α}

/-- A fetch is started only by a deed that can start one. -/
theorem Step.starts (h : Step w w') (hw : w.Reachable) {g : Nat}
    (begun : g ∈ (w'.history k).started) (new : g ∉ (w.history k).started) :
    ∃ n, w'.past = n :: w.past ∧ n.deed.Starts w.cache k := by
  rcases h.reports hw.booked with ⟨past, -⟩ | ⟨n, past, told⟩
  · rw [history, past] at begun
    exact (new begun).elim
  · rw [history, past, List.flatMap_cons, History.started, List.filterMap_append] at begun
    have start := (List.mem_append.mp begun).resolve_right new
    exact ⟨n, past, told.started k g (mem_started_note start)⟩

/-- A job that starts a fetch is a timer, which ticks while a subscriber asks for its period. -/
theorem Reachable.polled (hw : w.Reachable) {j : Job} {answer : Option (Except String α)}
    (starts : (Deed.run j answer).Starts w.cache k) :
    ∃ s p, w.cache.slots.find? k = some s ∧ s.Shortest p ∧ j.duty = .poll p := by
  cases starts with
  | @poll _ p _ listed own duty =>
    obtain ⟨s, there, shortest, -⟩ := hw.of_timer listed duty
    exact ⟨s, p, own ▸ there, shortest, duty⟩

/-- Nobody is interested: the entry is fetched if that is asked for, or somebody subscribes. -/
theorem Reachable.starts_lonely (hw : w.Reachable) {deed : Deed α}
    (starts : deed.Starts w.cache k) (lonely : w.cache.subscriberCount k = 0) :
    deed = .refetch k ∨ ∃ producer o, deed = .subscribe k producer o := by
  have nobody {s : Slot α} (there : w.cache.slots.find? k = some s) : s.subscribers = [] := by
    simpa [subscriberCount, there] using lonely
  cases starts with
  | subscribe producer o => exact .inr ⟨producer, o, rfl⟩
  | refetch => exact .inl rfl
  | invalidate there attended => exact (attended (nobody there)).elim
  | @poll j p answer listed own duty =>
    have starts : (Deed.run j answer).Starts w.cache k := .poll listed own duty
    obtain ⟨s, q, there, shortest, -⟩ := hw.polled starts
    exact (Slot.not_shortest_of_lonely (nobody there) shortest).elim

end Course

/-- In every reachable course, an entry has one live timer just when a subscriber asks for scheduled
    fetches, and it polls at the shortest interval asked for; otherwise the entry has no timer, and a
    query without an entry has none either. Every fetch that a step starts has its cause. On schedule
    one is started only while a subscriber asks for it at the interval of the timer, and while nobody
    is interested in the query, one is started only if it is asked for or somebody subscribes. -/
theorem timer_follows_intervals {w : Course α} (hw : w.Reachable) (k : Key) :
    (∀ s, w.cache.slots.find? k = some s →
      (∀ p, s.Shortest p ↔ ∃ j, w.timers k = [j] ∧ j.duty = .poll p) ∧
      ((∀ p, ¬ s.Shortest p) → w.timers k = [])) ∧
    (w.cache.slots.find? k = none → w.timers k = []) ∧
    ∀ w', Course.Step w w' → ∀ g, g ∈ (w'.history k).started → g ∉ (w.history k).started →
      ∃ n, w'.past = n :: w.past ∧ n.deed.Starts w.cache k ∧
        (∀ j answer, n.deed = .run j answer →
          ∃ s p, w.cache.slots.find? k = some s ∧ s.Shortest p ∧ j.duty = .poll p) ∧
        (w.cache.subscriberCount k = 0 →
          n.deed = .refetch k ∨ ∃ producer o, n.deed = .subscribe k producer o) := by
  refine ⟨fun s there => ⟨fun p => ⟨hw.timers_polled there, ?_⟩, fun unpolled => ?_⟩, ?_, ?_⟩
  · rintro ⟨j, only, duty⟩
    have live : j ∈ w.timers k := by simp [only]
    obtain ⟨listed, rfl, -⟩ := Course.mem_timers.mp live
    obtain ⟨s', there', shortest, -⟩ := hw.of_timer listed duty
    rw [there] at there'
    exact Option.some.inj there' ▸ shortest
  · refine hw.timers_unpolled fun s' there' => ?_
    rw [there] at there'
    exact Option.some.inj there' ▸ unpolled
  · intro vacant
    refine hw.timers_unpolled fun s there => ?_
    rw [vacant] at there
    exact nomatch there
  · intro w' step g begun new
    obtain ⟨n, past, starts⟩ := step.starts hw begun new
    refine ⟨n, past, starts, ?_, hw.starts_lonely starts⟩
    intro j answer ran
    exact hw.polled (ran ▸ starts)

/-- Of three subscribers one asks for no scheduled fetches, and the other two for intervals of which the
    shorter is polled. -/
theorem shorter_interval_polled :
    let w : Course Nat := .played 300 [.subscribe (.single "tasks") 0 { interval := 500 },
      .subscribe (.single "tasks") 0 {}, .subscribe (.single "tasks") 0 { interval := 200 }]
    ∃ s j, w.cache.slots.find? (.single "tasks") = some s ∧ s.Shortest 200 ∧
      w.timers (.single "tasks") = [j] ∧ j.duty = .poll 200 := by
  intro w
  have hw : w.Reachable := Course.reachable_played 300 _
  obtain ⟨s, there, period⟩ :
      ∃ s, w.cache.slots.find? (.single "tasks") = some s ∧ s.period? = some 200 :=
    ⟨_, rfl, by decide⟩
  have shortest := Slot.period?_eq_some.mp period
  obtain ⟨timers, -⟩ := (timer_follows_intervals hw (.single "tasks")).1 s there
  obtain ⟨j, only, duty⟩ := (timers 200).mp shortest
  exact ⟨s, j, there, shortest, only, duty⟩

end TaskWatch.Cache
