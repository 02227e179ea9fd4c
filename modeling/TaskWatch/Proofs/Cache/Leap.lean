import TaskWatch.Proofs.Cache.Polled
import TaskWatch.Proofs.Cache.Starvation

/-! A clock that leaps starts no burst of fetches.

    A timer that finds one of its deadlines passed ticks once, and waits for a deadline that is still
    ahead: the next one of its grid if it was late by the tolerance at most, and otherwise one that is a
    full period away. If the period is longer than the tolerance, the deadlines that a leap passed are
    therefore not made up for, however many they were. The book tells of the ticks: each starts a fetch,
    or skips it while another is in flight. -/

namespace TaskWatch.Cache

open Relation

variable {α : Type} {k : Key} {i j : Job} {moment p d : Nat}

/-! ### Ticks in the book -/

/-- The event tells that the timer of the query ticked: a fetch was started, or skipped because one was
    in flight. -/
def Event.isTick (k : Key) : Event → Bool
  | .started l _ => l == k
  | .skipped l => l == k
  | _ => false

/-- The ticks of a query that an entry of the book tells of. Only the run of a timer does. -/
def Note.ticks (k : Key) (n : Note α) : List (Nat × Event) :=
  match n.deed with
  | .run j _ =>
    if j.period?.isSome then
      (n.events.filter (Event.isTick k)).map (fun e => (n.moment.elapsed, e))
    else []
  | _ => []

/-- The ticks of a query, the latest first: when it ticked, and what came of it. -/
def Course.ticked (w : Course α) (k : Key) : List (Nat × Event) := w.past.flatMap (Note.ticks k)

/-- A scheduled fetch is reported as one tick. -/
theorem journal_scheduledFetch (now : Time.Instant) (l : Key) (c : Cache α) :
    ∃ e : Event, (∀ k, e.isTick k = (l == k)) ∧ (c.scheduledFetch now l).journal = e :: c.journal := by
  cases hs : c.slots.find? l with
  | none =>
    rw [scheduledFetch, startFetch_vacant hs]
    exact ⟨.skipped l, fun _ => rfl, rfl⟩
  | some s =>
    cases hf : s.inFlight with
    | none =>
      rw [scheduledFetch, startFetch_idle hs hf]
      exact ⟨.started l _, fun _ => rfl, rfl⟩
    | some f =>
      rw [scheduledFetch, startFetch_joined hs hf]
      exact ⟨.skipped l, fun _ => rfl, rfl⟩

theorem journal_repeated (now : Time.Instant) (l : Key) (n : Nat) (c : Cache α) :
    ∃ events : List Event, events.length = n ∧ (∀ e ∈ events, ∀ k, e.isTick k = (l == k)) ∧
      (repeated (scheduledFetch now l) n c).journal = events ++ c.journal := by
  induction n generalizing c with
  | zero => exact ⟨[], rfl, nofun, rfl⟩
  | succ n ih =>
    obtain ⟨e, tick, journal⟩ := journal_scheduledFetch now l c
    obtain ⟨events, length, ticks, journal'⟩ := ih (c.scheduledFetch now l)
    refine ⟨events ++ [e], by simp [length], fun e' listed => ?_, ?_⟩
    · rcases List.mem_append.mp listed with listed | listed
      · exact ticks e' listed
      · exact List.mem_singleton.mp listed ▸ tick
    · rw [repeated, journal', journal, List.append_assoc]
      rfl

/-! ### One tick -/

/-- How many deadlines a timer passes at once that ticks now, and the one that is still ahead. -/
def deadlines (now period due : Nat) : Nat × Nat := ticks now period (now - due) due

theorem lt_nextTick (long : tolerance < p) (moment d : Nat) : moment < nextTick moment p d := by
  unfold nextTick
  split <;> omega

/-- The next tick is a period away, or less by the tolerance at most. -/
theorem nextTick_bounds (passed : d ≤ moment) :
    moment + p ≤ nextTick moment p d + tolerance ∧ nextTick moment p d ≤ moment + p := by
  unfold nextTick
  split <;> omega

/-- A timer with a period longer than the tolerance passes one deadline at once. -/
theorem deadlines_long (long : tolerance < p) (moment d : Nat) :
    deadlines moment p d = (1, nextTick moment p d) := by
  unfold deadlines
  cases moment - d with
  | zero => rfl
  | succ fuel => rw [ticks, if_neg (Nat.not_le_of_lt (lt_nextTick long moment d))]

/-- The timer once it waits for a later deadline. -/
def Job.putOff (now : Time.Instant) (d : Nat) (j : Job) : Job := { j with due := some d, turn := now.turn }

/-- A timer that ticks is put off, and as many fetches are scheduled as it passes deadlines. -/
theorem tick_eq (now : Time.Instant) (c : Cache α) (due : j.due = some d) :
    c.tick now j p = repeated (scheduledFetch now j.key) (deadlines now.elapsed p d).1
      { c with agenda := c.agenda.remove j.number ++
          [j.putOff now (deadlines now.elapsed p d).2] } := by
  rw [tick, due, Option.getD_some]
  rfl

namespace Course

variable {w w' v v' : Course α}

/-- The book tells of the ticks of the timer that was run, and of no others. -/
theorem ticked_tick (booked : w.Booked) (duty : i.duty = .poll p) (due : i.due = some d) (k : Key) :
    ∃ events : List Event, events.length = (deadlines w.now.elapsed p d).1 ∧
      (w.after (.run i none) (w.cache.tick w.now i p)).ticked k =
        (if i.key = k then events.map (fun e => (w.now.elapsed, e)) else []) ++ w.ticked k := by
  obtain ⟨events, each, ticks, journal⟩ := journal_repeated w.now i.key
    (deadlines w.now.elapsed p d).1 { w.cache with agenda := w.cache.agenda.remove i.number ++
      [i.putOff w.now (deadlines w.now.elapsed p d).2] }
  have told : (w.cache.tick w.now i p).journal = events := by
    rw [tick_eq w.now w.cache due, journal]
    exact (congrArg (events ++ ·) booked).trans (List.append_nil _)
  have timed : i.period?.isSome = true := Option.isSome_of_eq_some (Job.period?_eq_some.mpr duty)
  have kept : events.filter (Event.isTick k) = if i.key = k then events else [] := by
    split
    · rename_i own
      exact List.filter_eq_self.mpr fun e listed => by rw [ticks e listed, own, beq_self_eq_true]
    · rename_i other
      refine List.filter_eq_nil_iff.mpr fun e listed => ?_
      rw [ticks e listed]
      simpa using other
  refine ⟨events, each, ?_⟩
  rw [ticked, after, List.flatMap_cons, Note.ticks, told]
  simp only [timed, if_true, kept]
  split <;> rfl

/-- A step in which no timer ticks tells of no tick. -/
theorem ticked_rests (book : w'.past = w.past ∨ ∃ n, w'.past = n :: w.past ∧
      ∀ i answer, n.deed = .run i answer → ∀ p, i.duty ≠ .poll p) (k : Key) :
    w'.ticked k = w.ticked k := by
  rcases book with same | ⟨n, past, untimed⟩
  · rw [ticked, same, ticked]
  · have silent : n.ticks k = [] := by
      unfold Note.ticks
      split
      · rename_i i answer ran
        refine if_neg fun timed => ?_
        obtain ⟨p, period⟩ := Option.isSome_iff_exists.mp timed
        exact untimed i answer ran p (Job.period?_eq_some.mp period)
      · rfl
    rw [ticked, past, List.flatMap_cons, silent]
    rfl

/-- What a step does to the timer of a query and tells of its ticks. -/
inductive Beat (k : Key) (w w' : Course α) : Prop
  | rests (told : w'.ticked k = w.ticked k)
      (timers : ∀ j ∈ w'.timers k, j ∈ w.timers k ∨ w'.now = w.now ∧ ∃ p, j.duty = .poll p ∧ w.Anew j p)
  | ticks {i : Job} {p d : Nat} (listed : i ∈ w.timers k) (duty : i.duty = .poll p)
      (due : i.due = some d) (passed : d ≤ w.now.elapsed) (still : w'.now = w.now)
      (events : List Event) (each : events.length = (deadlines w.now.elapsed p d).1)
      (told : w'.ticked k = events.map (fun e => (w.now.elapsed, e)) ++ w.ticked k)
      (waits : i.putOff w.now (deadlines w.now.elapsed p d).2 ∈ w'.timers k)

theorem Step.beat (step : Step w w') (hw : w.Reachable) (k : Key) : Beat k w w' := by
  cases step.beats hw with
  | rests timers book =>
    refine .rests (ticked_rests book k) fun j hj => ?_
    obtain ⟨listed, own, p, duty⟩ := mem_timers.mp hj
    rcases timers j listed p duty with stood | ⟨still, anew⟩
    · exact .inl (mem_timers.mpr ⟨stood, own, p, duty⟩)
    · exact .inr ⟨still, p, duty, anew⟩
  | @ticks i p listed due duty ticked =>
    subst ticked
    obtain ⟨d, hd, passed⟩ := (Option.any_eq_true _ _).mp due
    obtain ⟨events, each, told⟩ := ticked_tick hw.booked duty hd k
    by_cases own : i.key = k
    · rw [if_pos own] at told
      refine .ticks (mem_timers.mpr ⟨listed, own, p, duty⟩) duty hd (of_decide_eq_true passed) rfl
        events each told (mem_timers.mpr ⟨?_, own, p, duty⟩)
      show _ ∈ (w.cache.tick w.now i p).agenda
      rw [tick_eq w.now w.cache hd]
      exact kept_repeated _ (List.mem_append_right _ (List.mem_singleton_self _))
    · rw [if_neg own] at told
      refine .rests told fun j hj => .inl ?_
      obtain ⟨hj, same, q, polls⟩ := mem_timers.mp hj
      rcases (tick_spec w.cache p due).2 j hj q polls with stood | ⟨d', -, rfl⟩
      · exact mem_timers.mpr ⟨stood, same, q, polls⟩
      · exact absurd same own

/-! ### The end of a leap -/

/-- All that can have come of a query at the end of a leap. Until its timer has ticked, it polls at the
    old period, and from then on its deadline is ahead. -/
inductive Landed (k : Key) (p moment : Nat) (told : List (Nat × Event)) (v : Course α) : Prop
  | waits (none_yet : v.ticked k = told)
      (timers : ∀ j ∈ v.timers k, j.duty = .poll p ∨ ∀ d, j.due = some d → moment < d)
  | ticked (e : Event) (once : v.ticked k = (moment, e) :: told)
      (timers : ∀ j ∈ v.timers k, ∀ d, j.due = some d → moment < d)

theorem Anew.ahead (anew : w.Anew j p) (hw' : w'.Reachable) (hj : j ∈ w'.timers k)
    (duty : j.duty = .poll p) (due : j.due = some d) : w.now.elapsed < d := by
  obtain ⟨listed, -⟩ := mem_timers.mp hj
  obtain ⟨s, -, ⟨⟨periodic, -⟩, -⟩, -⟩ := hw'.of_timer listed duty
  obtain rfl := Option.some.inj (anew.due.symm.trans due)
  omega

theorem Landed.step {told : List (Nat × Event)} (landed : Landed k p v.now.elapsed told v)
    (long : tolerance < p) (hv : v.Reachable) (step : Step v v') :
    Landed k p v.now.elapsed told v' := by
  have hv' : v'.Reachable := hv.leads (.single step)
  cases step.beat hv k with
  | rests same timers =>
    have keeps {P : Job → Prop} (stood : ∀ j ∈ v.timers k, P j)
        (ahead : ∀ j, (∀ d, j.due = some d → v.now.elapsed < d) → P j) : ∀ j ∈ v'.timers k, P j := by
      intro j hj
      rcases timers j hj with before | ⟨-, q, duty, anew⟩
      · exact stood j before
      · exact ahead j fun d due => anew.ahead hv' hj duty due
    cases landed with
    | waits none_yet stood => exact .waits (same.trans none_yet) (keeps stood fun _ => .inr)
    | ticked e once stood => exact .ticked e (same.trans once) (keeps stood fun _ ahead => ahead)
  | @ticks i q d listed duty due passed still events each told' waits =>
    cases landed with
    | waits none_yet stood =>
      rcases stood i listed with polls | ahead
      · obtain rfl := Duty.poll.inj (duty.symm.trans polls)
        rw [deadlines_long long] at each waits
        obtain ⟨e, rfl⟩ := List.length_eq_one_iff.mp each
        refine .ticked e (by rw [told', none_yet]; rfl) fun j hj d' due' => ?_
        obtain rfl := hv'.only_timer waits hj
        obtain rfl := Option.some.inj due'
        exact lt_nextTick long _ d
      · exact absurd (ahead d due) (Nat.not_lt_of_le passed)
    | ticked e once stood => exact absurd (stood i listed d due) (Nat.not_lt_of_le passed)

/-- As long as the clock stands where it landed. -/
theorem Landed.leads {told : List (Nat × Event)} (landed : Landed k p w.now.elapsed told w)
    (long : tolerance < p) (hw : w.Reachable) (run : w.Leads v)
    (still : v.now.elapsed = w.now.elapsed) : Landed k p w.now.elapsed told v := by
  induction run with
  | refl => exact landed
  | @tail u v run step ih =>
    have forth : w.now.elapsed ≤ u.now.elapsed :=
      (Cell.Leads.dated (k := k) (Leads.cell run hw.booked)).1
    have same : u.now.elapsed = w.now.elapsed :=
      Nat.le_antisymm (still ▸ step.elapsed) forth
    exact same ▸ (same ▸ ih same).step long (hw.leads run) step

/-! ### After a leap -/

/-- The timer of the query polls at this interval and is set for this moment. -/
def SetFor (k : Key) (p d : Nat) (w : Course α) : Prop :=
  ∃ j ∈ w.timers k, j.duty = .poll p ∧ j.due = some d

theorem SetFor.polls (set : SetFor k p d w) (hw : w.Reachable) : w.Polls k p := by
  obtain ⟨j, hj, duty, -⟩ := set
  obtain ⟨listed, rfl, -⟩ := mem_timers.mp hj
  obtain ⟨s, there, shortest, -⟩ := hw.of_timer listed duty
  exact ⟨s, there, shortest⟩

theorem SetFor.not_rested (set : SetFor k p d w) (passed : d ≤ w.now.elapsed) : ¬ w.Rested := by
  obtain ⟨j, hj, duty, due⟩ := set
  intro rested
  have ahead := rested j (mem_timers.mp hj).1 (Job.isTimer_of_poll duty)
  simp [Job.isDue, due, passed] at ahead

/-- In a steady step the timer stands or ticks. -/
theorem SetFor.step (set : SetFor k p d v) (long : tolerance < p) (hv : v.Reachable)
    (steady : Steady k v v') :
    (SetFor k p d v' ∧ v'.ticked k = v.ticked k) ∨
      d ≤ v.now.elapsed ∧ v'.now = v.now ∧ SetFor k p (nextTick v.now.elapsed p d) v' ∧
        ∃ e, v'.ticked k = (v.now.elapsed, e) :: v.ticked k := by
  have hv' : v'.Reachable := hv.leads (.single steady.step)
  obtain ⟨s, there, shortest⟩ := set.polls hv
  obtain ⟨j, hj, duty, due⟩ := set
  cases steady.step.beat hv k with
  | rests same timers =>
    obtain ⟨s', there', shortest'⟩ := (steady.same p).mp ⟨s, there, shortest⟩
    obtain ⟨j', only, duty'⟩ := hv'.timers_polled there' shortest'
    have hj' : j' ∈ v'.timers k := only ▸ List.mem_singleton_self j'
    rcases timers j' hj' with before | ⟨-, q, polls, anew⟩
    · obtain rfl := hv.only_timer hj before
      exact .inl ⟨⟨j, hj', duty, due⟩, same⟩
    · -- It would have been set to the interval that it polled at before.
      obtain rfl := Duty.poll.inj (duty'.symm.trans polls)
      have other := anew.other s ((mem_timers.mp hj').2.1 ▸ there)
      exact absurd (Slot.period?_eq_some.mpr shortest) other
  | @ticks i q d' listed duty' due' passed still events each told waits =>
    obtain rfl := hv.only_timer hj listed
    obtain rfl := Duty.poll.inj (duty.symm.trans duty')
    obtain rfl := Option.some.inj (due.symm.trans due')
    rw [deadlines_long long] at each waits
    obtain ⟨e, rfl⟩ := List.length_eq_one_iff.mp each
    exact .inr ⟨passed, still, ⟨_, waits, duty, rfl⟩, e, told⟩

/-- How polling goes on after a leap of the clock to this moment which passed a deadline: the timer ticks
    there before any time passes, and then at the given moment, with no tick in between. -/
inductive Resumes (k : Key) (told : List (Nat × Event)) (moment next : Nat) (v : Course α) : Prop
  | waits (none_yet : v.ticked k = told) (still : v.now.elapsed = moment) (due : ¬ v.Rested)
  | ticked (e : Event) (once : v.ticked k = (moment, e) :: told) (early : v.now.elapsed ≤ next)
      (rested : v.Rested → v.now.elapsed < next)
  | again (e e' : Event) (more : List (Nat × Event))
      (twice : v.ticked k = more ++ (next, e') :: (moment, e) :: told)

/-- What carries this through a run: the timer is set for the deadline that was passed, and then for the
    one that follows. -/
inductive Resuming (k : Key) (p d : Nat) (told : List (Nat × Event)) (moment : Nat) (v : Course α) : Prop
  | waits (none_yet : v.ticked k = told) (still : v.now.elapsed = moment) (set : SetFor k p d v)
  | ticked (e : Event) (once : v.ticked k = (moment, e) :: told)
      (early : v.now.elapsed ≤ nextTick moment p d) (set : SetFor k p (nextTick moment p d) v)
  | again (e e' : Event) (more : List (Nat × Event))
      (twice : v.ticked k = more ++ (nextTick moment p d, e') :: (moment, e) :: told)

/-- More ticks can only be added to those that were told. -/
theorem Beat.prolongs (beat : Beat k w w') : ∃ more, w'.ticked k = more ++ w.ticked k := by
  cases beat with
  | rests told timers => exact ⟨[], told⟩
  | ticks listed duty due passed still events each told waits => exact ⟨_, told⟩

/-- The clock does not go past the time that the timer is set for. -/
theorem SetFor.early (set : SetFor k p d v) (early : v.now.elapsed ≤ d) (gentle : Gentle v v') :
    v'.now.elapsed ≤ d := by
  obtain ⟨j, hj, duty, due⟩ := set
  have within : v'.now.elapsed ≤ max d 0 := gentle.within (mem_timers.mp hj).1 duty due (by omega)
  omega

theorem Resuming.step {told : List (Nat × Event)} (h : Resuming k p d told moment v)
    (long : tolerance < p) (passed : d ≤ moment) (hv : v.Reachable) (steady : Steady k v v') :
    Resuming k p d told moment v' := by
  cases h with
  | waits none_yet still set =>
    subst still
    rcases set.step long hv steady with ⟨set', same⟩ | ⟨-, still', set', e, tick⟩
    · -- Time stands still until the timer has ticked.
      have stands := steady.urgent.resolve_right (set.not_rested passed)
      exact .waits (same.trans none_yet) stands set'
    · refine .ticked e (by rw [tick, none_yet]) ?_ set'
      rw [still']
      exact Nat.le_of_lt (lt_nextTick long ..)
  | ticked e once early set =>
    rcases set.step long hv steady with ⟨set', same⟩ | ⟨late, still', -, e', tick⟩
    · exact .ticked e (same.trans once) (set.early early steady.toGentle) set'
    · refine .again e e' [] ?_
      rw [tick, once, Nat.le_antisymm early late]
      rfl
  | again e e' more twice =>
    obtain ⟨later, told'⟩ := (steady.step.beat hv k).prolongs
    exact .again e e' (later ++ more) (by rw [told', twice, List.append_assoc])

theorem Resuming.resumes {told : List (Nat × Event)} (h : Resuming k p d told moment v)
    (passed : d ≤ moment) : Resumes k told moment (nextTick moment p d) v := by
  cases h with
  | waits none_yet still set => exact .waits none_yet still (set.not_rested (still ▸ passed))
  | ticked e once early set =>
    exact .ticked e once early fun rested =>
      Nat.lt_of_not_le fun late => set.not_rested late rested
  | again e e' more twice => exact .again e e' more twice

/-- From where the timer is due, as long as there is no further leap and the interval stays. -/
theorem Reachable.resumes (hw : w.Reachable) (set : SetFor k p d w) (long : tolerance < p)
    (passed : d ≤ w.now.elapsed) (run : ReflTransGen (Steady k) w v) :
    Resumes k (w.ticked k) w.now.elapsed (nextTick w.now.elapsed p d) v := by
  have resuming : Resuming k p d (w.ticked k) w.now.elapsed v := by
    induction run with
    | refl => exact .waits rfl rfl set
    | tail before steady ih => exact ih.step long passed (hw.leads (leads_of_steady before)) steady
  exact resuming.resumes passed

end Course

/-- The clock leaps while a query is polled at an interval longer than the tolerance of timers. As long
    as it stands where it landed, whatever is done there, the timer ticks once at most, so at most one
    scheduled fetch is started. If the leap passed a deadline of the timer, there is no further leap, and
    the interval stays, as it does while nobody subscribes or leaves, then the timer does tick there,
    and next after a full interval, or earlier by the tolerance at most. -/
theorem no_burst_after_leap {w : Course α} (hw : w.Reachable) {k : Key} {p : Nat} (polls : w.Polls k p)
    (long : 5 < p) (now : Time.Instant) (forth : w.now.elapsed ≤ now.elapsed) :
    let w' : Course α := { w with now }
    (∀ v, w'.Leads v → v.now.elapsed = now.elapsed →
      v.ticked k = w.ticked k ∨ ∃ e, v.ticked k = (now.elapsed, e) :: w.ticked k) ∧
    ((∃ j ∈ w.timers k, j.isDue now.elapsed = true) →
      ∃ next, now.elapsed + p - 5 ≤ next ∧ next ≤ now.elapsed + p ∧
        ∀ v, ReflTransGen (Course.Steady k) w' v →
          Course.Resumes k (w.ticked k) now.elapsed next v) := by
  intro w'
  have hw' : w'.Reachable := hw.leads (.single (.pass now forth))
  obtain ⟨s, there, shortest⟩ := polls
  obtain ⟨t, only, polls⟩ := hw.timers_polled there shortest
  refine ⟨fun v run still => ?_, ?_⟩
  · have landed : Course.Landed k p w'.now.elapsed (w.ticked k) w' := by
      refine .waits rfl fun j hj => .inl ?_
      obtain rfl := List.mem_singleton.mp (only ▸ hj)
      exact polls
    cases landed.leads long hw' run still with
    | waits none_yet timers => exact .inl none_yet
    | ticked e once timers => exact .inr ⟨e, once⟩
  · rintro ⟨j, hj, due⟩
    obtain rfl := List.mem_singleton.mp (only ▸ hj)
    obtain ⟨d, hd, passed⟩ := (Option.any_eq_true _ _).mp due
    have passed : d ≤ now.elapsed := of_decide_eq_true passed
    have set : Course.SetFor k p d w' := ⟨j, hj, polls, hd⟩
    have bounds := nextTick_bounds (p := p) passed
    refine ⟨nextTick now.elapsed p d, ?_, bounds.2, fun v run => hw'.resumes set long passed run⟩
    exact Nat.sub_le_of_le_add bounds.1

/-- A query is polled at 100, and at 40 the clock leaps past ten deadlines. The timer ticks once at the end
    of the leap and starts a fetch, which is still in flight when it ticks again 100 later. -/
theorem one_tick_for_ten_deadlines :
    let k : Key := .single "tasks"
    let w : Course Nat := .played 300000 [.subscribe k 0 { interval := 100 }, .run 1 0 (.ok 1),
      .run 1 0 (.ok 1), .pass 40]
    let w' : Course Nat := { w with now := { w.now with elapsed := 1043 } }
    let v := w'.plays [.run 2 0 (.ok 0), .run 3 200 (.ok 2)]
    let v' := w'.plays [.run 2 0 (.ok 0), .run 3 200 (.ok 2), .pass 100, .run 2 0 (.ok 0)]
    (∃ e, v.ticked k = (1043, e) :: w.ticked k) ∧
    v'.ticked k = [(1143, .skipped k), (1043, .started k 3)] ∧
    ∃ next, 1138 ≤ next ∧ next ≤ 1143 ∧ Course.Resumes k [] 1043 next v' := by
  intro k w w' v v'
  have hw : w.Reachable := Course.reachable_played _ _
  have polls : w.Polls k 100 := Course.polls_iff.mpr (by decide)
  have run : w'.Leads v := Course.leads_plays _ w'
  have steady : ReflTransGen (Course.Steady k) w' v' :=
    Course.plays_allowed Course.steady_play _ w' (by decide)
  have still : v.now.elapsed = 1043 := by decide
  have before : w.ticked k = [] := by decide
  have ticks : v'.ticked k = [(1143, .skipped k), (1043, .started k 3)] := by decide
  have ticked : v.ticked k ≠ w.ticked k := by decide
  have passed : ∃ j ∈ w.timers k, j.isDue 1043 = true := by decide
  have forth : w.now.elapsed ≤ 1043 := by decide
  obtain ⟨once, resumes⟩ := no_burst_after_leap hw polls (by decide) w'.now forth
  obtain ⟨next, late, early, resumes⟩ := resumes passed
  refine ⟨(once v run still).resolve_left ticked, ticks, next, late, early, ?_⟩
  rw [← before]
  exact resumes v' steady

end TaskWatch.Cache
