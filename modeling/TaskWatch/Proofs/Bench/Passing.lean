import TaskWatch.Proofs.Bench.Follows

/-! Time on a bench, millisecond by millisecond.

    A bench at rest lets time pass from one moment at which something is due to the next. It could as
    well stop at every millisecond and do what is due, for at a moment at which nothing is due it stays
    as it is. Told like this, time passes alike on benches with different things to do. -/

namespace TaskWatch.Bench

open Cache Relation

variable {α β : Type} {b b' : Bench α} {j : Job} {seen : Bench α → Option β}

/-- A punctual course can come to where the bench is. -/
def Followed (b : Bench α) : Prop := ∃ w : Course α, w.Punctual ∧ Follows w b

/-- All that was reported is on the log. -/
theorem Followed.booked (h : b.Followed) : b.cache.journal = [] := by
  obtain ⟨w, -, follows⟩ := h
  exact follows.cache ▸ follows.booked

theorem Followed.goes (h : b.Followed) (goes : Goes b b') : b'.Followed := by
  obtain ⟨w, hw, follows⟩ := h
  obtain ⟨w', run, follows', -⟩ := goes w hw follows
  exact ⟨w', hw.trans run, follows'⟩

theorem Followed.run (h : b.Followed) (listed : j ∈ b.cache.agenda) (due : j.isDue b.now = true) :
    (b.run j).Followed ∧ (b.run j).cache.agenda.work b.now < b.cache.agenda.work b.now := by
  obtain ⟨w, hw, follows⟩ := h
  obtain ⟨w', run, follows', -⟩ := follows.run listed due
  exact ⟨⟨w', hw.trans run, follows'⟩, follows.work_run hw.reachable listed due⟩

theorem Followed.rest (h : b.Followed) : b.rest.Followed := h.goes (rests_rest b).goes

theorem Followed.idle_rest (h : b.Followed) : b.rest.Idle := by
  obtain ⟨w, hw, follows⟩ := h
  obtain ⟨-, -, -, -, idle⟩ := rests_rest b w hw follows
  exact idle

theorem goes_clock (idle : b.Idle) {now : Nat} (later : b.now ≤ now) : Goes b { b with now } :=
  Rests.goes_clock (fun w _ follows => ⟨w, .refl, follows, rfl, idle⟩) later

theorem goes_settle (idle : b.Idle) {now : Nat} (later : b.now ≤ now) :
    Goes b (Time.Passing.settle now b) :=
  (goes_clock idle later).trans (rests_rest _).goes

theorem Followed.settle (h : b.Followed) (idle : b.Idle) {now : Nat} (later : b.now ≤ now) :
    (Time.Passing.settle now b : Bench α).Followed ∧
      (Time.Passing.settle now b : Bench α).Idle :=
  ⟨h.goes (goes_settle idle later), (h.goes (goes_clock idle later)).idle_rest⟩

/-! ### Coming to rest -/

theorem runDue_of_none (asleep : b.cache.agenda.next? b.now = none) (fuel : Nat) :
    b.runDue fuel = b := by
  cases fuel with
  | zero => rfl
  | succ fuel => rw [Bench.runDue, asleep]

theorem rest_of_none (asleep : b.cache.agenda.next? b.now = none) : b.rest = b :=
  runDue_of_none asleep _

theorem next?_idle (idle : b.Idle) : b.cache.agenda.next? b.now = none := by
  cases next : b.cache.agenda.next? b.now with
  | none => rfl
  | some j =>
    obtain ⟨listed, due⟩ := Agenda.next?_due next
    exact absurd due (Bool.eq_false_iff.mp (idle j listed))

theorem rest_idle (idle : b.Idle) : b.rest = b := rest_of_none (next?_idle idle)

/-- It makes no difference how many jobs may be run, if as many may be run as there is work. -/
theorem Followed.runDue_enough (fuel : Nat) : ∀ {b : Bench α} {fuel' : Nat}, b.Followed →
    b.cache.agenda.work b.now ≤ fuel → b.cache.agenda.work b.now ≤ fuel' →
    b.runDue fuel = b.runDue fuel' := by
  have asleep {b : Bench α} (done : b.cache.agenda.work b.now ≤ 0) :
      b.cache.agenda.next? b.now = none := by
    cases next : b.cache.agenda.next? b.now with
    | none => rfl
    | some j =>
      obtain ⟨listed, due⟩ := Agenda.next?_due next
      exact absurd (Agenda.work_pos listed due) (Nat.not_lt_of_le done)
  induction fuel with
  | zero => exact fun _ enough _ => (runDue_of_none (asleep enough) _).symm
  | succ fuel ih =>
    intro b fuel' h enough enough'
    cases next : b.cache.agenda.next? b.now with
    | none => rw [runDue_of_none next, runDue_of_none next]
    | some j =>
      obtain ⟨listed, due⟩ := Agenda.next?_due next
      obtain ⟨h', less⟩ := h.run listed due
      have less : (b.run j).cache.agenda.work (b.run j).now < b.cache.agenda.work b.now := less
      cases fuel' with
      | zero => exact absurd (Agenda.work_pos listed due) (Nat.not_lt_of_le enough')
      | succ fuel' =>
        rw [Bench.runDue, Bench.runDue, next]
        exact ih h' (by omega) (by omega)

/-- To come to rest is to run the next job, and then to come to rest. -/
theorem Followed.rest_next (h : b.Followed) (next : b.cache.agenda.next? b.now = some j) :
    b.rest = (b.run j).rest := by
  obtain ⟨listed, due⟩ := Agenda.next?_due next
  obtain ⟨h', less⟩ := h.run listed due
  have enough : b.cache.agenda.work b.now ≤ 3 * b.cache.agenda.length := Agenda.work_le _ _
  have enough' : (b.run j).cache.agenda.work (b.run j).now ≤ b.cache.agenda.work b.now :=
    Nat.le_of_lt less
  calc b.rest
    _ = b.runDue (b.cache.agenda.work b.now + 1) := h.runDue_enough _ enough (Nat.le_succ _)
    _ = (b.run j).runDue (b.cache.agenda.work b.now) := by rw [Bench.runDue, next]
    _ = (b.run j).rest := h'.runDue_enough _ enough' (Agenda.work_le _ _)

/-! ### One millisecond -/

/-- What will be due on a bench at rest is due later than now. -/
theorem Idle.ahead {e : Nat} (idle : b.Idle) (listed : j ∈ b.cache.agenda) (due : j.due = some e) :
    b.now < e := by
  have later := idle j listed
  rw [Job.isDue, due] at later
  exact Nat.lt_of_not_le (of_decide_eq_false later)

/-- Either something is due a millisecond later, or the bench does as well to be looked at then. -/
theorem next_millisecond (idle : b.Idle) :
    b.cache.agenda.wakes? b.now = some (b.now + 1) ∨
      ((Time.Passing.settle (b.now + 1) b : Bench α) = { b with now := b.now + 1 } ∧
        b.cache.agenda.wakes? (b.now + 1) = b.cache.agenda.wakes? b.now) := by
  have future {e : Nat} (due : e ∈ b.cache.agenda.filterMap (·.due)) : b.now < e := by
    obtain ⟨j, listed, he⟩ := List.mem_filterMap.mp due
    exact idle.ahead listed he
  by_cases due : b.now + 1 ∈ b.cache.agenda.filterMap (·.due)
  · refine .inl (List.min?_eq_some_iff.mpr ⟨?_, fun e he => ?_⟩)
    · exact List.mem_filter.mpr ⟨due, decide_eq_true (Nat.lt_succ_self _)⟩
    · exact future (List.mem_filter.mp he).1
  · have later {e : Nat} (he : e ∈ b.cache.agenda.filterMap (·.due)) : b.now + 1 < e :=
      Nat.lt_of_le_of_ne (future he) fun same => due (same ▸ he)
    refine .inr ⟨rest_idle fun j listed => ?_, ?_⟩
    · cases he : j.due with
      | none => rw [Job.isDue, he]; rfl
      | some e =>
        rw [Job.isDue, he]
        exact decide_eq_false (Nat.not_le_of_lt (later (List.mem_filterMap.mpr ⟨j, listed, he⟩)))
    · unfold Agenda.wakes?
      refine congrArg List.min? (List.filter_congr fun e he => ?_)
      rw [decide_eq_true (later he), decide_eq_true (future he)]

/-- A bench wakes later than now. -/
theorem wakes?_later {agenda : Agenda} {now d : Nat} (wakes : agenda.wakes? now = some d) :
    now < d :=
  of_decide_eq_true (List.mem_filter.mp (List.min?_eq_some_iff.mp wakes).1).2

theorem advance_step (idle : b.Idle) {last : Nat} (within : b.now < last) :
    { Time.advance last b.now b with now := last } =
      { Time.advance last (b.now + 1) (Time.Passing.settle (b.now + 1) b) with now := last } := by
  rcases next_millisecond idle with wakes | ⟨still, wakes⟩
  · rw [Time.advance.eq_def last b.now b,
      show Time.Passing.wakes? b.now b = some (b.now + 1) from wakes]
    simp only [Nat.lt_succ_self, Nat.succ_le_of_lt within, and_self, dite_true]
  · have same : Time.Passing.wakes? (b.now + 1) ({ b with now := b.now + 1 } : Bench α) =
        Time.Passing.wakes? b.now b := wakes
    rw [still, Time.advance.eq_def last b.now b, Time.advance.eq_def last (b.now + 1), same]
    cases next : Time.Passing.wakes? b.now b with
    | none => rfl
    | some d =>
      have ahead : b.now + 1 < d := wakes?_later (wakes.trans next)
      have ahead' : b.now < d := Nat.lt_of_succ_lt ahead
      simp only [ahead, ahead', true_and]
      split <;> rfl

/-- A bench with its clock where a wait ended, and what was seen. -/
def stopped (waited : Nat × Bench α × Option β) : Bench α × Option β :=
  ({ waited.2.1 with now := waited.1 }, waited.2.2)

theorem await_step (idle : b.Idle) {deadline : Nat} (within : b.now + 1 < deadline)
    (unseen : ∀ now, seen { b with now } = none) :
    stopped (Time.await seen deadline b.now b) =
      stopped (Time.await seen deadline (b.now + 1) (Time.Passing.settle (b.now + 1) b)) := by
  have blind : seen b = none := unseen b.now
  rcases next_millisecond idle with wakes | ⟨still, wakes⟩
  · rw [Time.await.eq_def seen deadline b.now b, blind,
      show Time.Passing.wakes? b.now b = some (b.now + 1) from wakes]
    simp only [Nat.lt_succ_self, within, and_self, dite_true]
  · have same : Time.Passing.wakes? (b.now + 1) ({ b with now := b.now + 1 } : Bench α) =
        Time.Passing.wakes? b.now b := wakes
    rw [still, Time.await.eq_def seen deadline b.now b, Time.await.eq_def seen deadline (b.now + 1),
      blind, unseen, same]
    cases next : Time.Passing.wakes? b.now b with
    | none => rfl
    | some d =>
      have ahead : b.now + 1 < d := wakes?_later (wakes.trans next)
      have ahead' : b.now < d := Nat.lt_of_succ_lt ahead
      simp only [ahead, ahead', true_and]
      split <;> rfl

/-! ### Many milliseconds -/

/-- Lets so many milliseconds pass, one after another. -/
def pass : Nat → Bench α → Bench α
  | 0, b => b
  | n + 1, b => pass n (Time.Passing.settle (b.now + 1) b)

/-- Looks every millisecond whether something can be seen, for so many milliseconds. What is due at the
    last of them is left undone. -/
def watch (seen : Bench α → Option β) : Nat → Bench α → Bench α × Option β
  | 0, b => (b, seen b)
  | n + 1, b =>
    match seen b with
    | some r => (b, some r)
    | none =>
      if n = 0 then ({ b with now := b.now + 1 }, none)
      else watch seen n (Time.Passing.settle (b.now + 1) b)

theorem now_settle (now : Nat) (b : Bench α) : (Time.Passing.settle now b : Bench α).now = now :=
  now_rest _

theorem Followed.pass : ∀ (n : Nat) {b : Bench α}, b.Followed → b.Idle →
    (b.pass n).Followed ∧ (b.pass n).Idle
  | 0, _, h, idle => ⟨h, idle⟩
  | n + 1, b, h, idle => by
    obtain ⟨h', idle'⟩ := h.settle idle (Nat.le_add_right b.now 1)
    exact Followed.pass n h' idle'

theorem Followed.advance_eq : ∀ (n : Nat) {b : Bench α}, b.Followed → b.Idle →
    { Time.advance (b.now + n) b.now b with now := b.now + n } = b.pass n
  | 0, b, _, _ => by
    rw [Time.advance.eq_def]
    split
    · rfl
    · rename_i d _
      rw [dif_neg (by omega : ¬ (b.now < d ∧ d ≤ b.now + 0))]
      rfl
  | n + 1, b, h, idle => by
    obtain ⟨h', idle'⟩ := h.settle idle (Nat.le_add_right b.now 1)
    have rest := Followed.advance_eq n h' idle'
    rw [now_settle, Nat.add_right_comm, Nat.add_assoc] at rest
    exact (advance_step idle (by omega)).trans rest

/-- To sleep is to come to rest, and then to let one millisecond pass after another. -/
theorem Followed.sleep_eq (h : b.Followed) (ms : Nat) : b.sleep ms = b.rest.pass ms := by
  have passed := h.rest.advance_eq ms h.idle_rest
  rwa [now_rest] at passed

theorem Followed.stopped_await : ∀ (n : Nat) {b : Bench α}, b.Followed → b.Idle →
    (∀ (b : Bench α) now, seen { b with now } = seen b) →
    stopped (Time.await seen (b.now + n) b.now b) = b.watch seen n
  | 0, b, _, _, _ => by
    unfold watch
    rw [Time.await.eq_def]
    split
    · rename_i r found
      rw [found]; rfl
    · rename_i unseen
      rw [unseen]
      split
      · rfl
      · rename_i d _
        rw [dif_neg (by omega : ¬ (b.now < d ∧ d < b.now + 0))]
        rfl
  | n + 1, b, h, idle, steady => by
    unfold watch
    cases found : seen b with
    | some r => rw [Time.await.eq_def, found]; rfl
    | none =>
      dsimp only
      split
      · rename_i last
        subst last
        rw [Time.await.eq_def, found]
        dsimp only
        split
        · rfl
        · rename_i d _
          rw [dif_neg (by omega : ¬ (b.now < d ∧ d < b.now + (0 + 1)))]
          rfl
      · obtain ⟨h', idle'⟩ := h.settle idle (Nat.le_add_right b.now 1)
        have rest := Followed.stopped_await n h' idle' steady
        rw [now_settle, Nat.add_right_comm, Nat.add_assoc] at rest
        exact (await_step idle (by omega) fun now => (steady b now).trans found).trans rest

/-- To wait is to look at once, and then every millisecond. -/
theorem Followed.await_eq (h : b.Followed) (steady : ∀ (b : Bench α) now, seen { b with now } = seen b)
    (timeout : Nat) : b.await seen timeout =
      match seen b with
      | some r => (b, some r)
      | none => if timeout = 0 then (b, none) else b.rest.watch seen timeout := by
  have watched := h.rest.stopped_await timeout h.idle_rest steady
  rw [now_rest] at watched
  rw [← watched]
  rfl

/-- To sleep for no time is to come to rest. -/
theorem Followed.rest_sleep_zero (h : b.Followed) : (b.sleep 0).rest = b.rest := by
  rw [h.sleep_eq, Bench.pass, rest_idle h.idle_rest]

/-- Who looks up on the way sleeps as well as one who sleeps on. -/
theorem Followed.sleep_sleep (h : b.Followed) (m n : Nat) :
    (b.sleep m).sleep n = b.sleep (m + n) := by
  have passes (m n : Nat) : ∀ b : Bench α, (b.pass m).pass n = b.pass (m + n) := by
    induction m with
    | zero => intro b; rw [Nat.zero_add]; rfl
    | succ m ih => intro b; rw [Nat.add_right_comm]; exact ih _
  obtain ⟨h', idle⟩ := h.rest.pass m h.idle_rest
  rw [h.sleep_eq, h.sleep_eq, h'.sleep_eq, rest_idle idle, passes]

/-! ### Runs -/

namespace Run

variable {r : Run α}

/-- A punctual course can come to where the run is. -/
def Tracked (r : Run α) : Prop := ∃ w : Course α, w.Punctual ∧ Tracks w r

theorem Tracked.goesOn {r' : Run α} (h : r.Tracked) (goes : GoesOn r r') : r'.Tracked := by
  obtain ⟨w, hw, tracks⟩ := h
  obtain ⟨w', run, tracks'⟩ := goes w hw tracks
  exact ⟨w', hw.trans run, tracks'⟩

theorem Tracked.followed (h : r.Tracked) : r.bench.Followed := by
  obtain ⟨w, hw, tracks⟩ := h
  exact ⟨w, hw, tracks.toFollows⟩

end Run

end TaskWatch.Bench
