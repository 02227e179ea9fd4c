import TaskWatch.Proofs.Cache.Punctual
import TaskWatch.Proofs.Cache.Work

/-! When timers are due.

    A timer is set when the interval that it polls at is new, and put off when it has ticked; whatever
    else is done leaves it on the agenda as it was (`Course.Step.beats`). So in every reachable course
    a timer is due within its period, and as it ticks the entry of its query is fetched. -/

namespace TaskWatch.Cache

variable {α : Type} {now : Time.Instant} {k : Key} {c c' c'' : Cache α} {s : Slot α} {j : Job}
  {p : Nat}

/-! ### What leaves timers alone -/

/-- No timer is set and none is put off: those on the agenda were there before. -/
def Undelayed (c c' : Cache α) : Prop := ∀ j ∈ c'.agenda, ∀ p, j.duty = .poll p → j ∈ c.agenda

namespace Undelayed

theorem refl (c : Cache α) : c.Undelayed c := fun _ hj _ _ => hj

theorem trans (h : c.Undelayed c') (h' : c'.Undelayed c'') : c.Undelayed c'' :=
  fun j hj p duty => h j (h' j hj p duty) p duty

theorem of_agenda (same : c'.agenda = c.agenda) : c.Undelayed c' := fun _ hj _ _ => same ▸ hj

end Undelayed

theorem undelayed_abort? (m : Option Nat) : c.Undelayed (c.abort? now m) :=
  fun _ hj _ duty => (timer_abort? hj (Job.isTimer_of_poll duty)).1

/-- A job is begun that is no timer. -/
theorem undelayed_spawn {duty : Duty} {due : Nat} (plain : ∀ p, duty ≠ .poll p) :
    c.Undelayed (c.spawn now k duty due) := by
  intro j hj p polls
  rcases List.mem_append.mp hj with hj | hj
  · exact hj
  · obtain rfl := List.mem_singleton.mp hj
    exact (plain p polls).elim

theorem undelayed_launch : c.Undelayed (c.launch now k s) :=
  undelayed_spawn (c := c.numbered.count _) nofun

theorem undelayed_startFetch {supersede : Bool} :
    c.Undelayed (c.startFetch now k supersede).1 := by
  cases hs : c.slots.find? k with
  | none => rw [startFetch_vacant hs]; exact .refl c
  | some s =>
    cases hf : s.inFlight with
    | none => rw [startFetch_idle hs hf]; exact undelayed_launch
    | some f =>
      cases supersede with
      | false => rw [startFetch_joined hs hf]; exact .refl c
      | true =>
        rw [startFetch_superseding hs hf]
        have aborted : c.Undelayed (c.abort now f.job) := undelayed_abort? (some f.job)
        exact aborted.trans (undelayed_launch (c := (c.abort now f.job).report _))

theorem undelayed_settle {g : Nat} {result : Except String α} :
    c.Undelayed (c.settle now k g result) :=
  .of_agenda agenda_settle

theorem undelayed_without (i : Job) : c.Undelayed (c.without i) :=
  fun _ hj _ _ => (Agenda.mem_remove.mp hj).1

theorem undelayed_served {producer : Nat} {o : Options} :
    c.Undelayed (c.served now k s producer o) := by
  have joined : c.Undelayed (c.joined now k s producer o) :=
    undelayed_abort? (c := c.numbered) (s.eviction.map Eviction.job)
  unfold served
  split
  · exact joined
  · split
    · exact joined
    · split <;> exact joined.trans undelayed_startFetch

theorem undelayed_invalidate : c.Undelayed (c.invalidate now k).1 := by
  unfold invalidate
  split
  · exact .refl c
  · dsimp only
    split
    · exact undelayed_startFetch
    · exact .refl c

theorem undelayed_abandonEntry {token : Nat} : c.Undelayed (c.abandonEntry now k token) := by
  unfold abandonEntry
  split
  · exact .refl c
  · split
    · exact .refl c
    · exact undelayed_spawn nofun

theorem undelayed_dropEntries (now : Time.Instant) (c : Cache α) :
    c.Undelayed (c.dropEntries now) :=
  fun _ hj _ duty => (timer_foldl_abortAll _ hj (Job.isTimer_of_poll duty)).1

theorem undelayed_place {i : Job} {g producer call : Nat} {due : Option Nat} :
    c.Undelayed { c with
      agenda := c.agenda.change i.number (fun i => { i with duty := .reply g producer call, due }) } := by
  intro j hj p duty
  obtain ⟨i', listed, rfl⟩ := List.mem_map.mp hj
  split at duty
  · exact nomatch duty
  · rename_i other
    rwa [if_neg other]

theorem undelayed_answered {waits : Job → Bool} (calls : ∀ j, waits j = true → j.isReply = true) :
    c.Undelayed { c with agenda := Agenda.answered now waits c.agenda } := by
  intro j hj p duty
  obtain ⟨i, listed, rfl⟩ := mem_answered.mp hj
  split at duty
  · rename_i waiting
    have reply := calls i waiting
    rw [Job.isReply, show i.duty = .poll p from duty] at reply
    exact nomatch reply
  · rename_i other
    rwa [if_neg other]

/-! ### What sets a timer -/

/-- A timer is set anew only if it is to poll at another interval than before. -/
theorem timer_reschedule (hj : j ∈ (c.reschedule now k).agenda) (duty : j.duty = .poll p) :
    j ∈ c.agenda ∨ (j.key = k ∧ j.due = some (now.elapsed + p) ∧
      ∃ s, c.slots.find? k = some s ∧ s.period? = some p ∧ s.timer.map Timer.period ≠ some p) := by
  cases hs : c.slots.find? k with
  | none =>
    rw [reschedule_vacant hs] at hj
    exact .inl hj
  | some s =>
    have stopped : c.Undelayed (c.stopTimer now k s.timer) := by
      intro i hi q polls
      rw [agenda_stopTimer] at hi
      exact undelayed_abort? _ i hi q polls
    rw [reschedule_eq hs] at hj
    split at hj
    · exact .inl hj
    · rename_i askew
      cases asked : s.period? with
      | none =>
        simp only [asked] at hj
        exact .inl (stopped j hj p duty)
      | some period =>
        simp only [asked] at hj
        rcases List.mem_append.mp hj with hj | hj
        · exact .inl (stopped j hj p duty)
        · obtain rfl := List.mem_singleton.mp hj
          obtain rfl := Duty.poll.inj duty
          refine .inr ⟨rfl, rfl, s, rfl, asked, fun aligned => askew ?_⟩
          rw [asked, aligned]
          simp

/-- Of deadlines that were passed, the one still ahead is within a period. -/
theorem ticks_le {period moment : Nat} : ∀ (fuel due : Nat), due ≤ moment →
    (ticks moment period fuel due).2 ≤ moment + period
  | 0, due, passed => by
    rcases nextTick_cases moment period due with kept | ⟨-, fresh⟩ <;> rw [ticks] <;> omega
  | fuel + 1, due, passed => by
    unfold ticks
    dsimp only
    split
    · rename_i passed'
      exact ticks_le fuel _ passed'
    · rcases nextTick_cases moment period due with kept | ⟨-, fresh⟩ <;> omega

theorem ticks_pos (moment period fuel due : Nat) : 0 < (ticks moment period fuel due).1 := by
  cases fuel with
  | zero => exact Nat.one_pos
  | succ fuel =>
    unfold ticks
    dsimp only
    split
    · exact Nat.succ_pos _
    · exact Nat.one_pos

/-- A scheduled fetch leaves its entry with a fetch in flight. -/
theorem busy_scheduledFetch (now : Time.Instant) (k : Key) (c : Cache α) :
    (c.scheduledFetch now k).Busy k := by
  by_cases busy : c.Busy k
  · rw [scheduledFetch_busy busy]
    exact busy
  · exact (scheduledFetch_idle now busy).1

theorem busy_repeated (now : Time.Instant) (k : Key) {n : Nat} (some : 0 < n) (c : Cache α) :
    (repeated (scheduledFetch now k) n c).Busy k := by
  induction n generalizing c with
  | zero => exact absurd some (Nat.lt_irrefl 0)
  | succ n ih =>
    cases n with
    | zero => exact busy_scheduledFetch now k c
    | succ n => exact ih (Nat.succ_pos n) _

/-- Scheduled fetches take no job off the agenda. -/
theorem kept_repeated (m : Nat) {i : Job} (hi : i ∈ c.agenda) :
    i ∈ (repeated (scheduledFetch now k) m c).agenda := by
  induction m generalizing c with
  | zero => exact hi
  | succ m ih =>
    refine ih ?_
    by_cases busy : c.Busy k
    · rw [scheduledFetch_busy busy]
      exact hi
    · obtain ⟨-, j, -, begun⟩ := scheduledFetch_idle now busy
      rw [begun]
      exact List.mem_append_left _ hi

theorem undelayed_repeated (n : Nat) (c : Cache α) :
    c.Undelayed (repeated (scheduledFetch now k) n c) := by
  induction n generalizing c with
  | zero => exact .refl c
  | succ n ih =>
    have fetched : c.Undelayed (c.startFetch now k false).1 := undelayed_startFetch
    have scheduled : c.Undelayed (c.scheduledFetch now k) := by
      unfold scheduledFetch
      dsimp only
      split <;> exact fetched
    exact scheduled.trans (ih _)

/-- A timer that ticks is due again within its period, and its entry is being fetched. No other timer
    is set or put off. -/
theorem tick_spec (c : Cache α) {i : Job} (period : Nat) (due : i.isDue now.elapsed = true) :
    (c.tick now i period).Busy i.key ∧
      ∀ j ∈ (c.tick now i period).agenda, ∀ p, j.duty = .poll p →
        j ∈ c.agenda ∨ ∃ d, d ≤ now.elapsed + period ∧
          j = { i with due := some d, turn := now.turn } := by
  obtain ⟨d, hd, passed⟩ := (Option.any_eq_true _ _).mp due
  have passed : d ≤ now.elapsed := by simpa using passed
  unfold tick
  rw [hd, Option.getD_some]
  refine ⟨busy_repeated now i.key (ticks_pos ..) _, fun j hj p duty => ?_⟩
  rcases List.mem_append.mp (undelayed_repeated _ _ j hj p duty) with hj | hj
  · exact .inl (Agenda.mem_remove.mp hj).1
  · exact .inr ⟨_, ticks_le _ d passed, List.mem_singleton.mp hj⟩

namespace Course

variable {w w' : Course α}

/-- How a timer of the second course came to be there: it was there before, or it has just ticked, or
    it was set to an interval that was not the shortest asked for before. -/
inductive Source (w w' : Course α) (j : Job) (p : Nat) : Prop
  | stood (listed : j ∈ w.cache.agenda)
  | ticked {i : Job} {d : Nat} (listed : i ∈ w.cache.agenda) (due : i.isDue w.now.elapsed = true)
      (same : j = { i with due := some d, turn := w.now.turn }) (soon : d ≤ w.now.elapsed + p)
      (busy : w'.cache.Busy j.key) (still : w'.now = w.now)
  | set (due : j.due = some (w.now.elapsed + p)) (still : w'.now = w.now)
      (other : ∀ s, w.cache.slots.find? j.key = some s → s.period? ≠ some p)

/-- The timer waits for a full interval, which was not the shortest asked for in the course. -/
structure Anew (w : Course α) (j : Job) (p : Nat) : Prop where
  due : j.due = some (w.now.elapsed + p)
  other : ∀ s, w.cache.slots.find? j.key = some s → s.period? ≠ some p

/-- A timer that was put in line with a slot which has the old timer. -/
theorem Reachable.timer_of_reschedule (hw : w.Reachable) {c : Cache α}
    (earlier : w.cache.Undelayed c)
    (same : ∀ s s', w.cache.slots.find? k = some s → c.slots.find? k = some s' → s'.timer = s.timer)
    (hj : j ∈ (c.reschedule w.now k).agenda) (duty : j.duty = .poll p) :
    j ∈ w.cache.agenda ∨ w.Anew j p := by
  rcases Cache.timer_reschedule hj duty with hj | ⟨rfl, due, s', there', -, askew⟩
  · exact .inl (earlier j hj p duty)
  · refine .inr ⟨due, fun s there asked => askew ?_⟩
    rw [same s s' there there', hw.tended.timed s there, asked]

/-- A timer that is there after somebody subscribed. -/
theorem Reachable.timer_of_subscribe (hw : w.Reachable) {c : Cache α} {producer : Nat} {o : Options}
    {h : Handle} (done : w.cache.subscribe w.now k producer o = .ok (c, h))
    (hj : j ∈ c.agenda) (duty : j.duty = .poll p) : j ∈ w.cache.agenda ∨ w.Anew j p := by
  have valid := valid_of_subscribe done
  cases hs : w.cache.slots.find? k with
  | none =>
    rw [subscribe_vacant valid hs, Except.ok.injEq, Prod.mk.injEq] at done
    obtain ⟨rfl, -⟩ := done
    exact hw.timer_of_reschedule (c := founded w.now k producer o w.cache)
      undelayed_startFetch (fun s _ there => nomatch hs.symm.trans there) hj duty
  | some s =>
    rw [subscribe_there valid hs, Except.ok.injEq, Prod.mk.injEq] at done
    obtain ⟨rfl, -⟩ := done
    refine hw.timer_of_reschedule undelayed_served (fun s₀ s' there there' => ?_) hj duty
    obtain rfl := Option.some.inj (hs.symm.trans there)
    obtain ⟨s₁, joined, same⟩ :=
      (spares_served (l := k) w.now k s producer o w.cache).slot_there' there'
    obtain rfl := Option.some.inj ((find?_setSlot_self ..).symm.trans joined)
    exact congrArg Interest.timer same

/-- A timer that is there after somebody left. -/
theorem Reachable.timer_of_unsubscribe (hw : w.Reachable) {h : Handle}
    (hj : j ∈ (w.cache.unsubscribe w.now h).agenda) (duty : j.duty = .poll p) :
    j ∈ w.cache.agenda ∨ w.Anew j p := by
  rcases unsubscribe_cases w.cache h with ⟨s, there, member⟩ | stranger
  · have left (hj : j ∈ (w.cache.left w.now h s).agenda) : j ∈ w.cache.agenda ∨ w.Anew j p := by
      refine hw.timer_of_reschedule (c := w.cache.numbered.setSlot h.key _) (.of_agenda rfl)
        (fun s₀ s' there₀ there' => ?_) hj duty
      obtain rfl := Option.some.inj (there.symm.trans there₀)
      obtain rfl := Option.some.inj ((find?_setSlot_self ..).symm.trans there')
      rfl
    rw [unsubscribe_member there member] at hj
    split at hj
    · exact left (undelayed_abandonEntry j hj p duty)
    · exact left hj
  · rw [unsubscribe_stranger stranger] at hj
    exact .inl hj

/-- How timers fare in a step: one ticks, or none does. -/
inductive Beats (w w' : Course α) : Prop
  | ticks {i : Job} {p : Nat} (listed : i ∈ w.cache.agenda) (due : i.isDue w.now.elapsed = true)
      (duty : i.duty = .poll p) (ticked : w' = w.after (.run i none) (w.cache.tick w.now i p))
  | rests (timers : ∀ j ∈ w'.cache.agenda, ∀ p, j.duty = .poll p →
        j ∈ w.cache.agenda ∨ w'.now = w.now ∧ w.Anew j p)
      (book : w'.past = w.past ∨ ∃ n, w'.past = n :: w.past ∧
        ∀ i answer, n.deed = .run i answer → ∀ p, i.duty ≠ .poll p)

/-- Something else was done than to run a job. -/
theorem Beats.of_deed {n : Note α} (past : w'.past = n :: w.past) (still : w'.now = w.now)
    (timers : ∀ j ∈ w'.cache.agenda, ∀ p, j.duty = .poll p → j ∈ w.cache.agenda ∨ w.Anew j p)
    (deed : ∀ i answer, n.deed ≠ .run i answer) : Beats w w' :=
  .rests (fun j hj p duty => (timers j hj p duty).imp_right fun anew => ⟨still, anew⟩)
    (.inr ⟨n, past, fun i answer ran => absurd ran (deed i answer)⟩)

/-- A job is run that is no timer, or a timer ticks. -/
theorem Beats.of_run {σ : Type} (supplier : Supplier σ α) (state : σ) {i : Job}
    (listed : i ∈ w.cache.agenda) (due : i.isDue w.now.elapsed = true) :
    Beats w (w.after (.run i (supplier.answer? i state)) (w.cache.runJob supplier w.now i state).1) := by
  have other (plain : ∀ p, i.duty ≠ .poll p)
      (undelayed : w.cache.Undelayed (w.cache.runJob supplier w.now i state).1) :
      Beats w (w.after (.run i (supplier.answer? i state))
        (w.cache.runJob supplier w.now i state).1) := by
    refine .rests (fun j hj p duty => .inl (undelayed j hj p duty)) (.inr ⟨_, rfl, ?_⟩)
    intro j answer ran
    obtain ⟨rfl, -⟩ := Deed.run.inj ran
    exact plain
  cases work : i.duty with
  | call g producer =>
    refine other (by simp [work]) ?_
    rw [runJob, work]
    exact undelayed_place
  | reply g producer call =>
    refine other (by simp [work]) ?_
    rw [runJob, work]
    exact (undelayed_without i).trans undelayed_settle
  | release producer call =>
    refine other (by simp [work]) ?_
    rw [runJob, work]
    exact undelayed_without i
  | poll period =>
    refine .ticks listed due work ?_
    rw [runJob, Supplier.answer?, work]
  | collect token =>
    refine other (by simp [work]) ?_
    rw [runJob, work]
    exact (undelayed_without i).trans (.of_agenda agenda_collect)

/-- Timers are set where somebody subscribes or leaves, and put off where they tick. -/
theorem Step.beats (step : Step w w') (hw : w.Reachable) : Beats w w' := by
  have undelayed {c : Cache α} (h : w.cache.Undelayed c) :
      ∀ j ∈ c.agenda, ∀ p, j.duty = .poll p → j ∈ w.cache.agenda ∨ w.Anew j p :=
    fun j hj p duty => .inl (h j hj p duty)
  cases step with
  | subscribe k producer o alive done =>
    exact .of_deed rfl rfl (fun _ hj _ duty => hw.timer_of_subscribe done hj duty) nofun
  | unsubscribe alive held =>
    exact .of_deed rfl rfl (fun _ hj _ duty => hw.timer_of_unsubscribe hj duty) nofun
  | refetch k alive done =>
    unfold Cache.refetch at done
    split at done
    · obtain rfl := Except.ok.inj done
      exact .of_deed rfl rfl (undelayed undelayed_startFetch) nofun
    · exact nomatch done
  | invalidate k alive => exact .of_deed rfl rfl (undelayed undelayed_invalidate) nofun
  | clear alive => exact .of_deed rfl rfl (undelayed (undelayed_dropEntries w.now w.cache)) nofun
  | abandon => exact .of_deed rfl rfl (undelayed (undelayed_dropEntries w.now w.cache)) nofun
  | run supplier state listed due => exact .of_run supplier state listed due
  | straggle k g answer started given_up unsettled =>
    exact .of_deed rfl rfl (undelayed undelayed_settle) nofun
  | answer waits calls =>
    exact .rests (fun j hj p duty => .inl (undelayed_answered calls j hj p duty)) (.inl rfl)
  | pass now later => exact .rests (fun j hj _ _ => .inl hj) (.inl rfl)
  | look i held => exact .rests (fun j hj _ _ => .inl hj) (.inl rfl)
  | forget i gone => exact .rests (fun j hj _ _ => .inl hj) (.inl rfl)

/-- Nothing else becomes of a timer. -/
theorem Step.timer (step : Step w w') (hw : w.Reachable) (hj : j ∈ w'.cache.agenda)
    (duty : j.duty = .poll p) : Source w w' j p := by
  cases step.beats hw with
  | @ticks i period listed due work ticked =>
    subst ticked
    obtain ⟨busy, timers⟩ := tick_spec w.cache period due
    rcases timers j hj p duty with hj | ⟨d, soon, rfl⟩
    · exact .stood hj
    · obtain rfl := Duty.poll.inj (work.symm.trans duty)
      exact .ticked listed due rfl soon busy rfl
  | rests timers book =>
    rcases timers j hj p duty with hj | ⟨still, anew⟩
    · exact .stood hj
    · exact .set anew.due still anew.other

/-- A timer is due within its period. -/
theorem Reachable.due_soon (hw : w.Reachable) (hj : j ∈ w.cache.agenda) (duty : j.duty = .poll p) :
    ∃ d, j.due = some d ∧ d ≤ w.now.elapsed + p := by
  obtain ⟨grace, now, run⟩ := hw
  induction run generalizing j with
  | refl => exact nomatch hj
  | @tail v v' before step ih =>
    cases step.timer ⟨grace, now, before⟩ hj duty with
    | stood listed =>
      obtain ⟨d, due, soon⟩ := ih listed duty
      have later := step.elapsed
      exact ⟨d, due, by omega⟩
    | ticked listed due same soon busy still => exact ⟨_, by rw [same], still ▸ soon⟩
    | set due still other => exact ⟨_, due, by rw [still]⟩

end Course

end TaskWatch.Cache
