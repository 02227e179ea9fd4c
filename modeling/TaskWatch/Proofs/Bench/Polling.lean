import TaskWatch.Proofs.Bench.Elapsing
import TaskWatch.Proofs.Bench.Reported
import TaskWatch.Proofs.Cache.Polled

/-! How often a query is fetched that is polled.

    Somebody is the first to subscribe to a query, with an interval, and then everybody sleeps. Other
    queries may be polled as well. If every call of the producer takes the same time, whatever comes of
    it, the query is fetched at once and then again and again in one rhythm. -/

namespace TaskWatch.Bench

open Cache

variable {α : Type} {b b' : Bench α} {ρ : Rhythm} {k : Key} {i n a d : Nat} {j : Job}

/-- Every call of the producer takes so long. -/
def Producer.Takes (p : Producer α) (d : Nat) : Prop :=
  ∃ turns, p.supply = .script turns ∧ ∀ call, (Producer.turnOf turns call).delay = d

/-- Every call of the producer with this number takes so long. -/
def Takes (producers : List (Producer α)) (i d : Nat) : Prop :=
  ∃ p, producers[i]? = some p ∧ p.Takes d

/-- A script takes as long as its turns do. -/
theorem Producer.takes_script {turns : List (Turn α)} (some : turns ≠ [])
    (same : ∀ t ∈ turns, t.delay = d) : Takes { supply := .script turns } d := by
  refine ⟨turns, rfl, fun call => ?_⟩
  have positive : 0 < turns.length := List.length_pos_of_ne_nil some
  have within : min call (turns.length - 1) < turns.length := by omega
  rw [turnOf, List.getD_eq_getElem?_getD, List.getElem?_eq_getElem within]
  exact same _ (List.getElem_mem within)

namespace Takes

variable {producers : List (Producer α)}

theorem call (h : Takes producers i d) : (supplier.call i producers).2.2 = some d := by
  obtain ⟨p, found, turns, script, same⟩ := h
  simp [supplier, found, Producer.call, script, same]

/-- A producer of which only the counts change takes as long as before. -/
theorem set (h : Takes producers i d) {l : Nat} {p p' : Producer α} (found : producers[l]? = some p)
    (same : p'.supply = p.supply) : Takes (producers.set l p') i d := by
  obtain ⟨q, here, turns, script, takes⟩ := h
  by_cases own : l = i
  · subst own
    obtain rfl := Option.some.inj (found.symm.trans here)
    have within : l < producers.length := (List.getElem?_eq_some_iff.mp here).1
    exact ⟨p', List.getElem?_set_self within, turns, same.trans script, takes⟩
  · exact ⟨q, (List.getElem?_set_ne own).trans here, turns, script, takes⟩

theorem runJob (h : Takes producers i d) (now : Time.Instant) (j : Job) (c : Cache α) :
    Takes (c.runJob supplier now j producers).2 i d := by
  have finish (l call : Nat) : Takes (supplier.finish l call producers) i d := by
    dsimp only [supplier]
    cases found : producers[l]? with
    | none => exact h
    | some p => exact h.set found rfl
  unfold Cache.runJob
  cases j.duty with
  | call g l =>
    show Takes (supplier.call l producers).1 i d
    dsimp only [supplier]
    cases found : producers[l]? with
    | none => exact h
    | some p =>
      refine h.set found ?_
      unfold Producer.call
      cases p.supply <;> rfl
  | reply g l call => exact finish l call
  | release l call => exact finish l call
  | poll period => exact h
  | collect token => exact h

theorem runDue (fuel : Nat) (h : Takes b.producers i d) : Takes (b.runDue fuel).producers i d := by
  induction fuel generalizing b with
  | zero => exact h
  | succ fuel ih =>
    unfold Bench.runDue
    cases b.cache.agenda.next? b.now with
    | none => exact h
    | some j => exact ih (h.runJob b.instant j b.cache)

theorem kept : Time.Kept (fun _ (b : Bench α) => Takes b.producers i d) :=
  fun _ now b _ h => runDue (b := { b with now }) _ h

theorem await {β : Type} (h : Takes b.producers i d) (seen : Bench α → Option β) (timeout : Nat) :
    Takes (b.await seen timeout).1.producers i d := by
  unfold Bench.await
  split
  · exact h
  · split
    · exact h
    · obtain ⟨_, -, takes⟩ := kept.await seen (h.runDue _) (Nat.le_add_right b.now timeout)
      exact takes

theorem resolve (h : Takes b.producers i d) (l call : Nat) (r : Except String α) :
    Takes (b.resolve l call r).1.producers i d := by
  unfold Bench.resolve
  cases found : b.producers[l]? with
  | none => exact h
  | some p =>
    dsimp only
    split
    · exact h
    · refine h.set found ?_
      unfold Producer.resolve
      split <;> rfl

/-- Whatever is done, calls take as long as ever. -/
theorem act [BEq α] {r : Run α} (h : Takes r.bench.producers i d) (s : Step α) :
    Takes (r.act s).1.bench.producers i d := by
  have onCache {f : Cache α → Run α × Outcome α}
      (does : Takes (f r.bench.cache).1.bench.producers i d) :
      Takes (r.onCache f).1.bench.producers i d :=
    Run.onCache_cases (P := fun done => Takes done.1.bench.producers i d) h fun _ => does
  have onHandle {l : Nat} {f : Handle → Run α × Outcome α}
      (does : ∀ h, Takes (f h).1.bench.producers i d) :
      Takes (r.onHandle l f).1.bench.producers i d :=
    Run.onHandle_cases (P := fun done => Takes done.1.bench.producers i d) h fun h _ => does h
  cases s with
  | subscribe key producer options => exact onCache (by split <;> exact h)
  | unsubscribe l => exact onHandle fun _ => by dsimp only; split <;> exact h
  | current l => exact onHandle fun _ => by split <;> exact h
  | latest l => exact onHandle fun _ => by split <;> exact h
  | keyOf l => exact onHandle fun _ => h
  | changed l timeout =>
    exact onHandle fun handle => by
      have waited := h.await (fun b => handle.change? b.cache) timeout
      dsimp only
      split <;> exact waited
  | waitFor l wish timeout =>
    exact onHandle fun handle =>
      h.await (fun b => handle.match? (fun e => wish.holds e) b.cache) timeout
  | entry key stale => exact onCache (by split <;> exact h)
  | refetch key => exact onCache (by split <;> exact h)
  | invalidate key => exact onCache h
  | clear => exact onCache h
  | hitRate => exact onCache h
  | grace => exact onCache h
  | abandon => exact h
  | resolve producer call result => exact h.resolve producer call result
  | sleep ms =>
    obtain ⟨_, -, takes⟩ := kept.advance (h.runDue _) (Nat.le_add_right r.bench.now ms)
    exact takes
  | jump ms => exact kept.leap h (Nat.le_add_right r.bench.now ms)

theorem steps [BEq α] (done : List (Step α × Bool)) {r : Run α} (h : Takes r.bench.producers i d) :
    Takes (r.steps done).bench.producers i d := by
  induction done generalizing r with
  | nil => exact h
  | cons s rest ih =>
    obtain ⟨s, hold⟩ := s
    refine ih ?_
    cases hold with
    | true => exact h.act s
    | false => exact (h.act s).runDue _

end Takes

/-! ### Polling on a bench -/

/-- On the bench the query is polled in the rhythm. -/
structure Polls (ρ : Rhythm) (k : Key) (i n a : Nat) (b : Bench α) : Prop where
  followed : b.Followed
  takes : Takes b.producers i ρ.delay
  polled : Polled ρ k i n a b.now b.cache

namespace Polls

/-- A bench at rest has not come to the next tick. -/
theorem calm (h : b.Polls ρ k i n a) (idle : b.Idle) : b.now < ρ.tick n := by
  obtain ⟨t, listed, -, -, due⟩ := h.polled.timer
  exact idle.ahead listed due

theorem run (h : b.Polls ρ k i n a) (listed : j ∈ b.cache.agenda) (due : j.isDue b.now = true) :
    ∃ n' a', (b.run j).Polls ρ k i n' a' ∧ ρ.fetches a ++ startsOf k (tells (b, j)) = ρ.fetches a' := by
  have followed := (h.followed.run listed due).1
  have takes : Takes (b.run j).producers i ρ.delay := h.takes.runJob b.instant j b.cache
  obtain ⟨w, hw, follows⟩ := h.followed
  have polled : Polled ρ k i n a b.instant.elapsed w.cache := follows.cache ▸ h.polled
  have ran := polled.run hw.reachable (follows.cache ▸ listed) due h.takes.call
  rw [follows.cache] at ran
  rcases ran with ⟨n', onward, unstarted⟩ | ⟨moment, n', g, onward, journal⟩
  · refine ⟨n', a, ⟨followed, takes, onward.booked⟩, ?_⟩
    have none : startsOf k (tells (b, j)) = [] :=
      startsOf_unstarted (fun g listed => unstarted g (List.mem_reverse.mp listed)) b.now
    rw [none, List.append_nil]
  · refine ⟨n', a + 1, ⟨followed, takes, onward.booked⟩, ?_⟩
    have one : startsOf k (tells (b, j)) = [b.now] := by
      have said : tells (b, j) = [(b.now, .started k g)] := by
        rw [tells, journal]
        rfl
      simp [said, startsOf, Event.started?]
    have now : b.now = ρ.fetch (a + 1) := moment
    rw [one, now, ρ.fetches_succ]

theorem elapses {ran : List (Bench α × Job)} (h : b.Polls ρ k i n a) (elapses : Elapses b ran b') :
    ∃ n' a', b'.Polls ρ k i n' a' ∧ ρ.fetches a ++ startsOf k (reports ran) = ρ.fetches a' := by
  induction elapses generalizing n a with
  | stay b => exact ⟨n, a, h, List.append_nil _⟩
  | @run b b' j ran listed due _ ih =>
    obtain ⟨n₁, a₁, first, fetches⟩ := h.run listed due
    obtain ⟨n₂, a₂, last, fetches'⟩ := ih first
    refine ⟨n₂, a₂, last, ?_⟩
    rw [← fetches', ← fetches, List.append_assoc, ← startsOf_append]
    rfl
  | @wait b b' ran now idle forth quiet _ ih =>
    have followed := h.followed.goes (goes_clock idle forth)
    exact ih ⟨followed, h.takes, h.polled.wait forth quiet⟩

/-- So it is when the bench has come to rest. -/
theorem rest (h : b.Polls ρ k i n a) :
    ∃ n' a', b.rest.Polls ρ k i n' a' ∧ b.rest.now < ρ.tick n' ∧
      ρ.fetches a ++ startsOf k (reports b.ran) = ρ.fetches a' := by
  obtain ⟨n', a', rested, fetches⟩ := h.elapses (.rest b)
  exact ⟨n', a', rested, rested.calm h.followed.idle_rest, fetches⟩

/-- So it is when somebody has slept. -/
theorem sleep (h : b.Polls ρ k i n a) (ms : Nat) :
    ∃ n' a', (b.sleep ms).Polls ρ k i n' a' ∧ (b.sleep ms).now < ρ.tick n' ∧
      ρ.fetches a ++ startsOf k (reports (b.slept ms)) = ρ.fetches a' := by
  obtain ⟨n', a', slept, fetches⟩ := h.elapses (h.followed.elapses_sleep ms)
  refine ⟨n', a', slept, slept.calm ?_, fetches⟩
  rw [h.followed.sleep_eq]
  exact (h.followed.rest.pass ms h.followed.idle_rest).2

end Polls

/-! ### Polling in a run -/

namespace Run

variable [BEq α] {r : Run α}

/-- After sleeping, what is still to be done at the moment may be done too or not. -/
theorem polls_sleep (h : r.bench.Polls ρ k i n a) (ms : Nat) (hold : Bool) :
    let r' := (r.step (.sleep ms) hold).1
    ∃ n' a', r'.bench.Polls ρ k i n' a' ∧ r'.bench.now < ρ.tick n' ∧
      r'.bench.now = r.bench.now + ms ∧
      ρ.fetches a ++ startsOf k (r.reported (.sleep ms) hold) = ρ.fetches a' := by
  obtain ⟨n₁, a₁, slept, calm, fetches⟩ := h.sleep ms
  have silent : r.heard (.sleep ms) = [] := ite_self []
  have told : r.reported (.sleep ms) hold =
      reports (r.bench.slept ms) ++ reports (if hold then [] else (r.bench.sleep ms).ran) := by
    rw [reported, silent, ← reports_append]
    rfl
  rw [told, startsOf_append, ← List.append_assoc, fetches]
  cases hold with
  | true => exact ⟨n₁, a₁, slept, calm, rfl, List.append_nil _⟩
  | false =>
    obtain ⟨n₂, a₂, rested, calm', fetches'⟩ := slept.rest
    exact ⟨n₂, a₂, rested, calm', now_rest _, fetches'⟩

/-- To sleep so long, perhaps several times. -/
def naps (waits : List (Nat × Bool)) : List (Step α × Bool) :=
  waits.map fun (ms, hold) => (.sleep ms, hold)

theorem polls_naps (waits : List (Nat × Bool)) (h : r.bench.Polls ρ k i n a)
    (calm : r.bench.now < ρ.tick n) :
    let r' := r.steps (naps waits)
    ∃ n' a', r'.bench.Polls ρ k i n' a' ∧ r'.bench.now < ρ.tick n' ∧
      r'.bench.now = r.bench.now + (waits.map Prod.fst).sum ∧
      ρ.fetches a ++ startsOf k (r.reportedOver (naps waits)) = ρ.fetches a' := by
  induction waits generalizing r n a with
  | nil => exact ⟨n, a, h, calm, rfl, List.append_nil _⟩
  | cons wait rest ih =>
    obtain ⟨ms, hold⟩ := wait
    obtain ⟨n₁, a₁, slept, calm', later, fetches⟩ := polls_sleep h ms hold
    obtain ⟨n₂, a₂, last, calm'', later', fetches'⟩ := ih slept calm'
    refine ⟨n₂, a₂, last, calm'', ?_, ?_⟩
    · rw [List.map_cons, List.sum_cons, ← Nat.add_assoc, ← later]
      exact later'
    · rw [← fetches', ← fetches, List.append_assoc, ← startsOf_append]
      rfl

/-- Whoever is the first to subscribe has the query polled. -/
theorem polls_subscribe (ρ : Rhythm) {o : Options} (tracked : r.Tracked)
    (alive : r.bench.cache.abandoned = false) (valid : k.isValid = true)
    (vacant : r.bench.cache.slots.find? k = none)
    (takes : Takes r.bench.producers i ρ.delay) (begins : ρ.start = r.bench.now)
    (asked : o.interval = ρ.interval) (hold : Bool) :
    let r' := (r.step (.subscribe k i o) hold).1
    ∃ n a, r'.bench.Polls ρ k i n a ∧ r'.bench.now < ρ.tick n ∧ r'.bench.now = r.bench.now ∧
      startsOf k (r.reported (.subscribe k i o) hold) = ρ.fetches a := by
  obtain ⟨polled, g, journal⟩ := Polled.begin r.bench.instant k i begins asked r.bench.cache
  rw [tracked.followed.booked] at journal
  have done : r.bench.cache.subscribe r.bench.instant k i o = .ok (_, _) :=
    subscribe_vacant valid vacant
  have acted : (r.act (.subscribe k i o)).1.bench =
      r.bench.withCache ((r.bench.cache.founded r.bench.instant k i o).reschedule r.bench.instant k) := by
    simp only [act, onCache, alive, done]
    rfl
  have heard : r.heard (.subscribe k i o) =
      [(r.bench.now, .started k g), (r.bench.now, .timerScheduled k ρ.interval)] := by
    simp only [Run.heard, hears, alive, done, journal]
    rfl
  have polls : (r.act (.subscribe k i o)).1.bench.Polls ρ k i 1 0 := by
    refine ⟨(tracked.goesOn (goesOn_act r _)).followed, ?_, ?_⟩
    · rw [acted]
      exact takes
    · rw [acted]
      exact polled.booked
  have first : startsOf k (r.heard (.subscribe k i o)) = ρ.fetches 0 := by
    rw [heard, Rhythm.fetches_zero, begins]
    simp [startsOf, Event.started?]
  have still : (r.act (.subscribe k i o)).1.bench.now = r.bench.now := by
    rw [acted]
    rfl
  rw [reported, startsOf_append, first]
  cases hold with
  | true =>
    refine ⟨1, 0, polls, ?_, still, List.append_nil _⟩
    rw [Rhythm.tick, begins, ← still, Nat.one_mul]
    exact Nat.lt_add_of_pos_right ρ.periodic
  | false =>
    obtain ⟨n, a, rested, calm, fetches⟩ := polls.rest
    exact ⟨n, a, rested, calm, (now_rest _).trans still, fetches⟩

end Run

/-- Let somebody be the first to subscribe to a query, with an interval, in whatever run, and then let
    everybody sleep, several times perhaps. If every call of the producer takes the same time, which is
    none or not just as long as some intervals, then the query is fetched at once and again whenever as
    many intervals have passed as a call takes, but one at least. So the log tells, whatever the calls
    bring. -/
theorem polled_in_rhythm [BEq α] (grace : Nat) (producers : List (Producer α)) (now : Nat)
    (origin : Time.Stamp) (done : List (Step α × Bool)) (k : Key) (i d : Nat) (o : Options)
    (hold : Bool) (waits : List (Nat × Bool)) :
    let r := (Run.fresh grace producers now origin).steps done
    let slept := (waits.map Prod.fst).sum
    let round := o.interval * max 1 (d ⌈/⌉ o.interval)
    let steps := (.subscribe k i o, hold) :: Run.naps waits
    r.bench.cache.abandoned = false → k.isValid = true → r.bench.cache.slots.find? k = none →
    0 < o.interval → Takes producers i d → (d = 0 ∨ ¬ o.interval ∣ d) →
    (r.steps steps).bench.log = lines (r.reportedOver steps) ++ r.bench.log ∧
      startsOf k (r.reportedOver steps) =
        (List.range (1 + slept / round)).map (fun a => r.bench.now + a * round) := by
  intro r slept round steps alive valid vacant periodic takes apart
  let ρ : Rhythm := ⟨r.bench.now, o.interval, d, periodic, apart⟩
  have tracked : r.Tracked := Run.punctual_steps rfl rfl done
  obtain ⟨n₁, a₁, polls, calm, still, first⟩ :=
    Run.polls_subscribe ρ tracked alive valid vacant (takes.steps done) rfl rfl hold
  obtain ⟨n, a, polls', calm', later, fetches⟩ := Run.polls_naps waits polls calm
  have count := ρ.count polls'.polled.after polls'.polled.within calm' polls'.polled.behind
  have since : (((r.step (.subscribe k i o) hold).1.steps (Run.naps waits)).bench.now - ρ.start) =
      slept := by
    rw [later, still]
    exact Nat.add_sub_cancel_left ..
  rw [since] at count
  refine ⟨Run.log_steps tracked steps, ?_⟩
  rw [Run.reportedOver, startsOf_append, first, fetches, ← count, Rhythm.fetches, Nat.add_comm]
  rfl

/-- Calls take one interval and a half, and of three the first is answered, the second fails and the third
    breaks down. While another query is polled too, every second tick starts a fetch. -/
theorem every_second_tick :
    let k : Key := .single "tasks"
    let slow : Producer Nat := { supply := .script [⟨.ok 1, 150⟩, ⟨.err "down", 150⟩, ⟨.breakdown, 150⟩] }
    let quick : Producer Nat := { supply := .script [⟨.ok 5, 20⟩] }
    let done : List (Step Nat × Bool) :=
      [(.subscribe (.single "other") 1 { interval := 70 }, false), (.jump 35, false)]
    let r := (Run.fresh 300000 [slow, quick] 0 Time.benchStart).steps done
    startsOf k (r.reportedOver ((.subscribe k 0 { interval := 100, stale := 40 }, true) ::
      Run.naps [(30, false), (370, true), (199, false), (201, false)])) = [35, 235, 435, 635, 835] := by
  intro k slow quick done r
  have takes : Takes [slow, quick] 0 150 :=
    ⟨slow, rfl, Producer.takes_script (List.cons_ne_nil _ _) (by decide)⟩
  have rhythm := polled_in_rhythm 300000 [slow, quick] 0 Time.benchStart done k 0 150
    { interval := 100, stale := 40 } true [(30, false), (370, true), (199, false), (201, false)]
    (by decide) (by decide) (by decide) (by decide) takes (by decide)
  exact rhythm.2.trans (by decide)

end TaskWatch.Bench
