import TaskWatch.Proofs.Cache.Ticking

/-! How long an entry that is polled can go unfetched.

    A timer is due within its period and stands on the agenda as it is until it ticks, unless the
    shortest interval that is asked for changes: then it is set anew and waits for a full period
    (`Waits` is what carries this through a run). So an entry is fetched within an interval that stays
    the shortest for as long, and within twice an interval if the shortest one changes once at most.
    Subscribers who come and go more often can keep an entry from ever being fetched. -/

namespace TaskWatch.Cache

open Relation

variable {α : Type} {k : Key} {s : Slot α} {j : Job} {p q id span : Nat}

/-! ### What is written in the meantime -/

/-- What is written of a query in the meantime is dated so. -/
theorem Cell.Leads.dated {x y : Cell α} (h : Cell.Leads k x y) :
    x.now.elapsed ≤ y.now.elapsed ∧ ∃ since, y.history = since ++ x.history ∧
      ∀ note ∈ since, x.now.elapsed ≤ note.1.elapsed ∧ note.1.elapsed ≤ y.now.elapsed := by
  induction h with
  | refl => exact ⟨Nat.le_refl _, [], rfl, by simp⟩
  | @tail y z before step ih =>
    obtain ⟨later, since, history, dated⟩ := ih
    have one {sign : Sign α} : ∀ note ∈ (y.now, sign) :: since,
        x.now.elapsed ≤ note.1.elapsed ∧ note.1.elapsed ≤ y.now.elapsed :=
      List.forall_mem_cons.mpr ⟨⟨later, Nat.le_refl _⟩, dated⟩
    cases step with
    | pass later' =>
      exact ⟨Nat.le_trans later later', since, history, fun note among =>
        (dated note among).imp_right fun h => Nat.le_trans h later'⟩
    | number more => exact ⟨later, since, history, dated⟩
    | adjust producer subscribers timer eviction there => exact ⟨later, since, history, dated⟩
    | _ => exact ⟨later, _, congrArg (List.cons _) history, one⟩

namespace Course

variable {w w' v v' : Course α}

/-- A fetch is in flight in the first course, or the second one tells of a fetch that was started not
    long after: so at some moment of that span one is started or in flight. -/
def FetchedWithin (k : Key) (span : Nat) (w w' : Course α) : Prop :=
  (∃ g, w.cache.Flying k g) ∨ ∃ t g, (t, Sign.started g) ∈ w'.history k ∧
    w.now.elapsed ≤ t.elapsed ∧ t.elapsed ≤ w.now.elapsed + span

theorem FetchedWithin.leads (h : FetchedWithin k span w v) (hv : v.Reachable) (run : v.Leads w') :
    FetchedWithin k span w w' := by
  have later : Cell.Leads k (v.cell k) (w'.cell k) := Leads.cell run hv.booked
  refine h.imp_right fun ⟨t, g, told, soon⟩ => ⟨t, g, ?_, soon⟩
  exact later.history.subset told

/-- What is in flight now was started in the meantime, or was in flight before. -/
theorem Reachable.fetchedWithin (hw : w.Reachable) (run : w.Leads v) {g : Nat}
    (flying : v.cache.Flying k g) (soon : v.now.elapsed ≤ w.now.elapsed + span) :
    FetchedWithin k span w v := by
  have cells : Cell.Leads k (w.cell k) (v.cell k) := Leads.cell run hw.booked
  obtain ⟨-, since, history, dated⟩ := cells.dated
  have flight := (hw.leads run).flying_iff.mp flying
  rw [show v.history k = since ++ w.history k from history] at flight
  rcases History.flight?_append flight with begun | before
  · obtain ⟨⟨t, sign⟩, among, start⟩ := List.mem_filterMap.mp begun
    obtain rfl : sign = .started g := by
      cases sign <;> simp_all [Sign.started?]
    obtain ⟨early, late⟩ := dated _ among
    refine .inr ⟨t, g, ?_, early, Nat.le_trans late soon⟩
    rw [show v.history k = since ++ w.history k from history]
    exact List.mem_append_left _ among
  · exact .inl ⟨g, hw.flying_iff.mpr before⟩

/-! ### Runs without leaps -/

/-- A timely step in which the clock does not go past the time of a timer. -/
structure Gentle (w w' : Course α) : Prop extends Timely w w' where
  short : ∀ j ∈ w.cache.agenda, j.isTimer = true → ∀ d, j.due = some d →
    w.now.elapsed ≤ d → w'.now.elapsed ≤ d

/-- The interval at which the query is polled. -/
def Polls (w : Course α) (k : Key) (q : Nat) : Prop :=
  ∃ s, w.cache.slots.find? k = some s ∧ s.Shortest q

/-- Somebody is subscribed to the query who asked for scheduled fetches at this interval. -/
def Subscribed (w : Course α) (k : Key) (id p : Nat) : Prop :=
  ∃ s, w.cache.slots.find? k = some s ∧ (id, p) ∈ s.subscribers

/-- A gentle step that does not change the interval at which the query is polled. -/
structure Steady (k : Key) (w w' : Course α) : Prop extends Gentle w w' where
  same : ∀ q, w.Polls k q ↔ w'.Polls k q

/-- A query is polled at the interval that a subscriber asked for, or at a shorter one. -/
theorem Subscribed.polls (h : w.Subscribed k id p) (periodic : p ≠ 0) :
    ∃ q, w.Polls k q ∧ q ≤ p := by
  obtain ⟨s, there, listed⟩ := h
  have asked : p ∈ (s.subscribers.map Prod.snd).filter (fun i => i != 0) :=
    List.mem_filter.mpr ⟨List.mem_map_of_mem listed, bne_iff_ne.mpr periodic⟩
  cases hq : s.period? with
  | none => rw [Slot.period?, List.min?_eq_none_iff] at hq; simp [hq] at asked
  | some q =>
    have shortest := Slot.period?_eq_some.mp hq
    exact ⟨q, ⟨s, there, shortest⟩, shortest.2 ⟨periodic, id, listed⟩⟩

theorem leads_of_gentle (run : ReflTransGen Gentle w w') : w.Leads w' :=
  ReflTransGen.mono (fun _ _ gentle => gentle.step) _ _ run

theorem leads_of_steady (run : ReflTransGen (Steady k) w w') : w.Leads w' :=
  leads_of_gentle (ReflTransGen.mono (fun _ _ steady => steady.toGentle) _ _ run)

/-! ### A timer that waits -/

/-- The timer of the query still waits that was due soon when the first course was there, and its
    time has not gone by. -/
def Waits (k : Key) (q : Nat) (w v : Course α) : Prop :=
  ∃ j ∈ v.cache.agenda, j.key = k ∧ j.duty = .poll q ∧ ∃ d, j.due = some d ∧
    d ≤ w.now.elapsed + q ∧ v.now.elapsed ≤ max d w.now.elapsed

theorem Reachable.waits (hw : w.Reachable) (polls : w.Polls k q) : Waits k q w w := by
  obtain ⟨s, there, shortest⟩ := polls
  obtain ⟨j, only, duty⟩ := hw.timers_polled there shortest
  obtain ⟨listed, own, -⟩ := mem_timers.mp (only ▸ List.mem_singleton_self j)
  obtain ⟨d, due, soon⟩ := hw.due_soon listed duty
  exact ⟨j, listed, own, duty, d, due, soon, Nat.le_max_right ..⟩

/-- The clock does not go past the time of a timer, unless it had before. -/
theorem Gentle.within (gentle : Gentle v v') (hj : j ∈ v.cache.agenda) (duty : j.duty = .poll q)
    {d early : Nat} (due : j.due = some d) (within : v.now.elapsed ≤ max d early) :
    v'.now.elapsed ≤ max d early := by
  have timer := Job.isTimer_of_poll duty
  rcases gentle.urgent with still | rested
  · omega
  · have ahead : v.now.elapsed < d := by
      simpa [Job.isDue, due] using rested j hj timer
    exact Nat.le_trans (gentle.short j hj timer d due (Nat.le_of_lt ahead)) (Nat.le_max_left ..)

/-- As long as the timer waits it is soon, and after a gentle step it is still. -/
theorem Waits.soon (h : Waits k q w v) (gentle : Gentle v v') :
    v'.now.elapsed ≤ w.now.elapsed + q := by
  obtain ⟨j, listed, -, duty, d, due, soon, within⟩ := h
  have within' := gentle.within listed duty due within
  omega

/-- In a steady step a timer that waits goes on waiting, or it ticks. -/
theorem Waits.step (h : Waits k q w v) (hw : w.Reachable) (run : w.Leads v)
    (steady : Steady k v v') : Waits k q w v' ∨ FetchedWithin k q w v' := by
  have soon := h.soon steady.toGentle
  obtain ⟨j, listed, rfl, duty, d, due, early, within⟩ := h
  have hv := hw.leads run
  have hv' := hv.leads (.single steady.step)
  obtain ⟨s, there, shortest, -⟩ := hv.of_timer listed duty
  obtain ⟨s', there', shortest'⟩ := (steady.same q).mp ⟨s, there, shortest⟩
  obtain ⟨j', only', duty'⟩ := hv'.timers_polled there' shortest'
  obtain ⟨listed', own, -⟩ := mem_timers.mp (only' ▸ List.mem_singleton_self j')
  cases steady.step.timer hv listed' duty' with
  | stood before =>
    obtain rfl := hv.timer_unique before listed own duty' duty
    exact .inl ⟨j', listed', own, duty', d, due, early,
      steady.toGentle.within listed duty due within⟩
  | ticked before passed same soon' busy still =>
    obtain ⟨f, flying⟩ := Option.ne_none_iff_exists'.mp (busy s' (own ▸ there'))
    have flying' : v'.cache.Flying j.key f.generation := ⟨s', f, there', flying, rfl⟩
    exact .inr (hw.fetchedWithin (run.tail steady.step) flying' soon)
  | set due' still other =>
    rw [own] at other
    exact (other s there (Slot.period?_eq_some.mpr shortest)).elim

/-- As long as the interval stays the same at which the query is polled, its timer waits for its time
    or the query is fetched in time. -/
theorem Reachable.waits_or_fetched (hw : w.Reachable) (polls : w.Polls k q)
    (run : ReflTransGen (Steady k) w v) : Waits k q w v ∨ FetchedWithin k q w v := by
  induction run with
  | refl => exact .inl (hw.waits polls)
  | @tail v v' before steady ih =>
    have leads := leads_of_steady before
    rcases ih with waits | fetched
    · exact waits.step hw leads steady
    · exact .inr (fetched.leads (hw.leads leads) (.single steady.step))

/-- The query is fetched within an interval that stays the shortest for as long. -/
theorem Reachable.fetched_within_interval (hw : w.Reachable) (polls : w.Polls k q)
    (run : ReflTransGen (Steady k) w w') (long : w.now.elapsed + q ≤ w'.now.elapsed)
    (rested : w'.Rested) : FetchedWithin k q w w' := by
  refine (hw.waits_or_fetched polls run).resolve_left ?_
  rintro ⟨j, listed, -, duty, d, due, early, -⟩
  have ahead : w'.now.elapsed < d := by
    simpa [Job.isDue, due] using rested j listed (Job.isTimer_of_poll duty)
  omega

theorem FetchedWithin.mono (h : FetchedWithin k span w w') {longer : Nat} (le : span ≤ longer) :
    FetchedWithin k longer w w' :=
  h.imp_right fun ⟨t, g, told, early, late⟩ => ⟨t, g, told, early, by omega⟩

/-! ### Runs without leaps that are played -/

/-- The move is a gentle step. -/
def glides (w : Course α) (m : Move α) : Bool :=
  (!m.waits || decide w.Rested) && w.cache.agenda.all (fun j => !j.isTimer ||
    j.due.all (fun d => decide (w.now.elapsed ≤ d → (w.play m).now.elapsed ≤ d)))

/-- Of every move this holds where it is played. -/
def allow (may : Course α → Move α → Bool) (w : Course α) : List (Move α) → Bool
  | [] => true
  | m :: rest => may w m && allow may (w.play m) rest

theorem gentle_play {m : Move α} (glides : w.glides m = true) :
    w.play m = w ∨ Gentle w (w.play m) := by
  obtain ⟨urgent, short⟩ := Bool.and_eq_true_iff.mp glides
  refine (step_play w m).imp_right fun step => ⟨⟨step, ?_⟩, fun j hj timer d due early => ?_⟩
  · cases waits : m.waits with
    | false => exact .inl (congrArg Time.Instant.elapsed (now_play w waits))
    | true => exact .inr (by simpa [waits] using urgent)
  · have within := List.all_eq_true.mp short j hj
    rw [timer, due] at within
    have within : d < w.now.elapsed ∨ (w.play m).now.elapsed ≤ d := by simpa using within
    exact within.resolve_left (Nat.not_lt_of_le early)

theorem plays_allowed {may : Course α → Move α → Bool} {R : Course α → Course α → Prop}
    (sound : ∀ w m, may w m = true → w.play m = w ∨ R w (w.play m)) :
    ∀ (moves : List (Move α)) (w : Course α), allow may w moves = true →
      ReflTransGen R w (w.plays moves)
  | [], _, _ => .refl
  | m :: rest, w, allowed => by
    obtain ⟨first, others⟩ := Bool.and_eq_true_iff.mp allowed
    have played : ReflTransGen R (w.play m) ((w.play m).plays rest) :=
      plays_allowed sound rest (w.play m) others
    show ReflTransGen R w ((w.play m).plays rest)
    rcases sound w m first with same | step
    · rw [same] at played ⊢
      exact played
    · exact .head step played

theorem polls_iff : w.Polls k q ↔ (w.cache.slots.find? k).bind Slot.period? = some q := by
  simp [Polls, Option.bind_eq_some_iff, Slot.period?_eq_some]

/-- The move is a gentle step that leaves the interval as it is at which the query is polled. -/
def glidesSteadily (k : Key) (w : Course α) (m : Move α) : Bool :=
  w.glides m && (w.cache.slots.find? k).bind Slot.period? ==
    ((w.play m).cache.slots.find? k).bind Slot.period?

theorem steady_play (w : Course α) (m : Move α) (steady : glidesSteadily k w m = true) :
    w.play m = w ∨ Steady k w (w.play m) := by
  obtain ⟨glides, same⟩ := Bool.and_eq_true_iff.mp steady
  refine (gentle_play glides).imp_right fun gentle => ⟨gentle, fun q => ?_⟩
  rw [polls_iff, polls_iff, beq_iff_eq.mp same]

end Course

/-- If the shortest interval asked for changes once at most within twice the interval of a subscriber
    who stays, then in that time the query is fetched. -/
theorem polled_unless_disturbed_twice {w v v' w' : Course α} (hw : w.Punctual) {k : Key} {id p : Nat}
    (periodic : p ≠ 0) (there : w.Subscribed k id p) (stays : v'.Subscribed k id p)
    (before : ReflTransGen (Course.Steady k) w v) (change : Course.Gentle v v')
    (after : ReflTransGen (Course.Steady k) v' w') (rested : w'.Rested)
    (long : w.now.elapsed + 2 * p ≤ w'.now.elapsed) : w.FetchedWithin k (2 * p) w' := by
  have hw := hw.reachable
  obtain ⟨q, polls, short⟩ := there.polls periodic
  obtain ⟨q', polls', short'⟩ := stays.polls periodic
  have leads : w.Leads v' := (Course.leads_of_steady before).tail change.step
  have hv' := hw.leads leads
  have leads' : v'.Leads w' := Course.leads_of_steady after
  have hv := hw.leads (Course.leads_of_steady before)
  rcases hw.waits_or_fetched polls before with waits | fetched
  · have soon := waits.soon change
    have later : w.now.elapsed ≤ v'.now.elapsed :=
      (Cell.Leads.dated (k := k) (Course.Leads.cell leads hw.booked)).1
    rcases hv'.fetched_within_interval polls' after (by omega) rested with ⟨g, flying⟩ | h
    · have fetched : w.FetchedWithin k q v' := hw.fetchedWithin leads flying soon
      exact (fetched.mono (by omega)).leads hv' leads'
    · obtain ⟨t, g, told, early, late⟩ := h
      exact .inr ⟨t, g, told, by omega, by omega⟩
  · have run : v.Leads w' := (ReflTransGen.single change.step).trans leads'
    exact (fetched.mono (by omega)).leads hv run

/-- Somebody polls at 80 who comes at 60 and stays: the query is fetched between 1 and 201, since it is
    polled at 140. -/
theorem polled_in_company :
    let w : Course Nat := .played 300000 [.subscribe (.single "tasks") 0 { interval := 100 },
      .run 1 0 (.ok 1), .run 1 0 (.ok 1), .pass 1]
    let v := w.plays [.pass 59]
    let v' := v.play (.subscribe (.single "tasks") 0 { interval := 80, stale := 60000 })
    let w' := v'.plays [.pass 80, .run 3 0 (.ok 0), .run 4 0 (.ok 2), .run 4 0 (.ok 2), .pass 61]
    w'.now.elapsed = 201 ∧ w.FetchedWithin (.single "tasks") 200 w' := by
  intro w v v' w'
  have hw : w.Punctual := Course.punctual_played (by decide)
  have before : ReflTransGen (Course.Steady (.single "tasks")) w v :=
    Course.plays_allowed Course.steady_play _ w (by decide)
  have change : Course.Gentle v v' :=
    (Course.gentle_play (by decide)).resolve_left fun same =>
      absurd (congrArg (fun w => w.past.length) same) (by decide)
  have after : ReflTransGen (Course.Steady (.single "tasks")) v' w' :=
    Course.plays_allowed Course.steady_play _ v' (by decide)
  have there : w.Subscribed (.single "tasks") 1 100 := ⟨_, rfl, by decide⟩
  have stays : v'.Subscribed (.single "tasks") 1 100 := ⟨_, rfl, by decide⟩
  refine ⟨by decide, ?_⟩
  exact polled_unless_disturbed_twice hw (by decide) there stays before change after (by decide)
    (by decide)

/-- The move is a gentle step that leaves the subscriber there. -/
def Course.glidesKeeping (k : Key) (id p : Nat) (w : Course α) (m : Move α) : Bool :=
  w.glides m && ((w.play m).cache.slots.find? k).any (fun s => s.subscribers.contains (id, p))

theorem Course.keeping_play (k : Key) (id p : Nat) (w : Course α) (m : Move α)
    (keeps : glidesKeeping k id p w m = true) :
    w.play m = w ∨ (Gentle w (w.play m) ∧ (w.play m).Subscribed k id p) := by
  obtain ⟨glides, there⟩ := Bool.and_eq_true_iff.mp keeps
  obtain ⟨s, found, listed⟩ := (Option.any_eq_true _ _).mp there
  exact (gentle_play glides).imp_right fun gentle =>
    ⟨gentle, s, found, List.contains_iff_mem.mp listed⟩

/-- A subscriber who polls at 100 stays, and another comes at 90, who polls at 80, and goes at 169: the
    timer is set anew each time, and between 1 and 201 nothing is fetched. -/
theorem polling_starved : ¬ ∀ (w w' : Course Nat) (k : Key) (id p : Nat), w.Punctual → p ≠ 0 →
    w.Subscribed k id p →
    ReflTransGen (fun v v' => Course.Gentle v v' ∧ v'.Subscribed k id p) w w' → w'.Rested →
    w.now.elapsed + 2 * p ≤ w'.now.elapsed → w.FetchedWithin k (2 * p) w' := by
  intro claim
  let k : Key := .single "tasks"
  let w : Course Nat := .played 300000 [.subscribe k 0 { interval := 100, stale := 60000 },
    .run 1 0 (.ok 1), .run 1 0 (.ok 1), .pass 1]
  let w' := w.plays [.pass 89, .subscribe k 0 { interval := 80, stale := 60000 }, .pass 79,
    .unsubscribe 1, .pass 32]
  have hw : w.Punctual := Course.punctual_played (by decide)
  have run : ReflTransGen (fun v v' => Course.Gentle v v' ∧ v'.Subscribed k 1 100) w w' :=
    Course.plays_allowed (Course.keeping_play k 1 100) _ w (by decide)
  have idle : (w.cache.slots.find? k).bind (·.inFlight) = none := rfl
  have early : ∀ note ∈ w'.history k, note.1.elapsed = 0 := by decide
  rcases claim w w' k 1 100 hw (by decide) ⟨_, rfl, by decide⟩ run (by decide) (by decide) with
    ⟨g, s, f, there, flying, -⟩ | ⟨t, g, told, late, -⟩
  · rw [there, Option.bind_some, flying] at idle
    exact nomatch idle
  · have now : w.now.elapsed = 1 := rfl
    have before : t.elapsed = 0 := early _ told
    omega

end TaskWatch.Cache
