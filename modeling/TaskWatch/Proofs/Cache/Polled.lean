import TaskWatch.Proofs.Cache.Latest
import TaskWatch.Proofs.Cache.Reports
import TaskWatch.Proofs.Cache.Rhythm
import TaskWatch.Proofs.Cache.Serving
import TaskWatch.Proofs.Cache.Ticking

/-! Where the polling of a query stands.

    `Polled` says of a query that is polled which tick comes next, which fetch was started last, and
    what has become of it. The job of that fetch and the timer lead on from there. Every other job leaves
    the query alone, whether it is for another query or left over from an entry that was evicted. -/

namespace TaskWatch.Cache

/-! ### What a job leaves alone -/

variable {α σ : Type} {now : Time.Instant} {k l : Key} {c : Cache α} {s : Slot α} {i j : Job}
  {supplier : Supplier σ α} {state : σ}

/-- Every other job stays on the agenda. -/
theorem kept_runJob (numbered : c.agenda.Numbered c.begun) (listed : j ∈ c.agenda)
    (hi : i ∈ c.agenda) (other : i ≠ j) : i ∈ (c.runJob supplier now j state).1.agenda := by
  have apart : i.number ≠ j.number := fun same => other (numbered.job hi listed same)
  have stays : i ∈ (c.without j).agenda := Agenda.mem_remove.mpr ⟨hi, apart⟩
  unfold runJob
  cases j.duty with
  | call g producer => exact List.mem_map.mpr ⟨i, hi, if_neg apart⟩
  | reply g producer call =>
    dsimp only
    rwa [agenda_settle]
  | release producer call => exact stays
  | poll period => exact kept_repeated _ (List.mem_append_left _ stays)
  | collect token =>
    dsimp only
    rwa [agenda_collect]

theorem find?_repeated_other (hl : l ≠ k) (m : Nat) (c : Cache α) :
    (repeated (scheduledFetch now k) m c).slots.find? l = c.slots.find? l := by
  induction m generalizing c with
  | zero => rfl
  | succ m ih =>
    rw [repeated, ih]
    cases hs : c.slots.find? k with
    | none => rw [scheduledFetch, startFetch_vacant hs]; rfl
    | some s =>
      cases hf : s.inFlight with
      | none =>
        rw [scheduledFetch, startFetch_idle hs hf]
        exact (find?_setSlot _ k l _).trans (if_neg hl)
      | some f => rw [scheduledFetch, startFetch_joined hs hf]; rfl

theorem find?_collect {token : Nat} (there : c.slots.find? l = some s) (attended : s.subscribers ≠ []) :
    (c.collect k token).slots.find? l = some s := by
  unfold collect
  cases hs : c.slots.find? k with
  | none => exact there
  | some s' =>
    dsimp only
    split
    · rename_i expired
      have lonely := List.isEmpty_iff.mp (Bool.and_eq_true_iff.mp expired).1
      have other : l ≠ k := fun own =>
        attended (Option.some.inj (there.symm.trans (own ▸ hs)) ▸ lonely)
      exact (Table.find?_erase c.slots k l).trans ((if_neg other).trans there)
    · exact there

theorem find?_settle {g : Nat} {result : Except String α} (aside : k = l → ¬ c.Flying k g) :
    (c.settle now k g result).slots.find? l = c.slots.find? l := by
  unfold settle
  split
  · rfl
  · rcases commit_entered_or_undisturbed c now k g result with ⟨flying, others⟩ | ⟨-, m, e, -, same⟩
    · exact others l fun own => aside own.symm flying
    · rw [same]

/-- The job is neither the timer of the query nor takes the answer to its fetch in flight. -/
structure Aside (k : Key) (c : Cache α) (j : Job) : Prop where
  timer : j.key = k → ∀ p, j.duty ≠ .poll p
  flight : j.key = k → ∀ g producer call, j.duty = .reply g producer call → ¬ c.Flying k g

/-- Such a job leaves a query alone that has subscribers. -/
theorem Aside.find?_runJob (aside : Aside k c j) (there : c.slots.find? k = some s)
    (attended : s.subscribers ≠ []) : (c.runJob supplier now j state).1.slots.find? k = some s := by
  have done : (c.without j).slots.find? k = some s := there
  unfold runJob
  cases duty : j.duty with
  | call g producer => exact there
  | reply g producer call =>
    refine (find?_settle fun own => ?_).trans done
    rw [own]
    exact aside.flight own g producer call duty
  | release producer call => exact there
  | poll period =>
    have other : k ≠ j.key := fun own => aside.timer own.symm period duty
    exact (find?_repeated_other other _ _).trans there
  | collect token => exact find?_collect done attended

/-- Only the timer of a query has a fetch of it started. -/
theorem unstarted_runJob (booked : c.journal = []) (listed : j ∈ c.agenda)
    (other : j.key = k → ∀ p, j.duty ≠ .poll p) (g : Nat) :
    .started k g ∉ (c.runJob supplier now j state).1.journal := by
  have told : Reports _ _ c (c.runJob supplier now j state).1 := reports_runJob listed none
  obtain ⟨events, journal, started, -⟩ := told
  rw [journal, booked, List.append_nil]
  intro reported
  cases started k g reported with
  | poll _ own duty => exact other own _ duty

/-- The job that is due again so much later. -/
def Job.again (now : Time.Instant) (p : Nat) (j : Job) : Job :=
  { j with due := some (now.elapsed + p), turn := now.turn }

/-- The cache once a timer waits for another period. -/
def postponed (now : Time.Instant) (j : Job) (p : Nat) (c : Cache α) : Cache α :=
  { c with agenda := c.agenda.remove j.number ++ [j.again now p] }

theorem mem_postponed (now : Time.Instant) (j : Job) (p : Nat) (c : Cache α) :
    j.again now p ∈ (c.postponed now j p).agenda :=
  List.mem_append_right _ (List.mem_singleton_self _)

/-- A timer that ticks in time is due again a period later. -/
theorem tick_punctual {p : Nat} (due : j.due = some now.elapsed) :
    c.tick now j p = (c.postponed now j p).scheduledFetch now j.key := by
  have once : ticks now.elapsed p (now.elapsed - now.elapsed) now.elapsed = (1, now.elapsed + p) := by
    rw [Nat.sub_self, ticks, nextTick, if_neg (by omega)]
  rw [tick, due, Option.getD_some, once]
  rfl

/-! ### The jobs of a query -/

namespace Course

variable {w : Course α}

/-- A fetch in flight has one job. -/
theorem Reachable.flight_unique {f : Flight} (hw : w.Reachable)
    (there : w.cache.slots.find? k = some s) (flying : s.inFlight = some f)
    (hi : i ∈ w.cache.agenda) (hj : j ∈ w.cache.agenda) (own : i.key = k) (own' : j.key = k)
    (carries : i.generation? = some f.generation) (carries' : j.generation? = some f.generation) :
    i = j := by
  have named {j : Job} (hj : j ∈ w.cache.agenda) (own : j.key = k)
      (carries : j.generation? = some f.generation) : j.number = f.job := by
    have has : w.cache.agenda.Has k j.number (.fetch f.generation) :=
      ⟨j, hj, own, rfl, Job.generation?_eq.mp carries⟩
    rcases hw.staffed.fetches _ _ _ has with stray | ⟨s', there', names⟩
    · exact absurd (History.evictedFlights_lt_flight hw.faithful.orderly
        (hw.faithful.flying there flying) _ stray) (Nat.lt_irrefl _)
    · obtain rfl := Option.some.inj (there.symm.trans there')
      obtain ⟨f', flying', job, -⟩ := names.flying
      obtain rfl := Option.some.inj (flying.symm.trans flying')
      exact job.symm
  exact hw.staffed.numbered.job hi hj ((named hi own carries).trans (named hj own' carries').symm)

end Course

/-! ### Where polling stands -/

variable {ρ : Rhythm} {producer n a moment : Nat}

/-- What has become of the fetch that was started last. -/
inductive Stage (ρ : Rhythm) (k : Key) (producer a moment : Nat) (c : Cache α) (s : Slot α) : Prop
  /-- It is about to call the producer. -/
  | begins {f : Flight} {j : Job} (flying : s.inFlight = some f) (listed : j ∈ c.agenda)
      (own : j.key = k) (duty : j.duty = .call f.generation producer) (due : j.due = some (ρ.fetch a))
      (ahead : moment ≤ ρ.fetch a)
  /-- It waits for the answer. -/
  | waits {f : Flight} {j : Job} {call : Nat} (flying : s.inFlight = some f) (listed : j ∈ c.agenda)
      (own : j.key = k) (duty : j.duty = .reply f.generation producer call)
      (due : j.due = some (ρ.fetch a + ρ.delay)) (ahead : moment ≤ ρ.fetch a + ρ.delay)
  /-- It has ended. -/
  | ended (idle : s.inFlight = none) (past : ρ.fetch a + ρ.delay ≤ moment)

/-- The timer of the query is set for the tick with this number. -/
def Ticks (ρ : Rhythm) (k : Key) (n : Nat) (c : Cache α) : Prop :=
  ∃ j ∈ c.agenda, j.key = k ∧ j.duty = .poll ρ.interval ∧ j.due = some (ρ.tick n)

/-- The query is polled in the rhythm, and the producer is called for it. The tick that comes next has
    the number `n`, and the fetch that was started last the number `a`. -/
structure Polled (ρ : Rhythm) (k : Key) (producer n a moment : Nat) (c : Cache α) : Prop where
  slot : ∃ s, c.slots.find? k = some s ∧ s.producer = producer ∧ s.subscribers ≠ [] ∧
    Stage ρ k producer a moment c s
  timer : Ticks ρ k n c
  ahead : moment ≤ ρ.tick n
  behind : ρ.tick n ≤ moment + ρ.interval
  after : a * ρ.beats < n
  within : n ≤ (a + 1) * ρ.beats

/-- While a fetch is in flight, it is not longer since its start than it takes. -/
theorem Stage.early (h : Stage ρ k producer a moment c s) (busy : s.inFlight ≠ none) :
    moment ≤ ρ.fetch a + ρ.delay := by
  cases h with
  | begins flying listed own duty due ahead => exact Nat.le_add_right_of_le ahead
  | waits flying listed own duty due ahead => exact ahead
  | ended idle past => exact absurd idle busy

/-- The job of a fetch in flight stays on the agenda. -/
theorem Stage.keeps {c' : Cache α} (h : Stage ρ k producer a moment c s)
    (kept : ∀ f j, s.inFlight = some f → j ∈ c.agenda → j.key = k →
      j.generation? = some f.generation → j ∈ c'.agenda) : Stage ρ k producer a moment c' s := by
  cases h with
  | @begins f j flying listed own duty due ahead =>
    have carries : j.generation? = some f.generation := by rw [Job.generation?, duty]
    exact .begins flying (kept f j flying listed own carries) own duty due ahead
  | @waits f j call flying listed own duty due ahead =>
    have carries : j.generation? = some f.generation := by rw [Job.generation?, duty]
    exact .waits flying (kept f j flying listed own carries) own duty due ahead
  | ended idle past => exact .ended idle past

/-- What was reported does not matter. -/
theorem Polled.booked (h : Polled ρ k producer n a moment c) :
    Polled ρ k producer n a moment { c with journal := [] } := by
  obtain ⟨s, there, own, attended, stage⟩ := h.slot
  exact ⟨⟨s, there, own, attended, stage.keeps fun _ _ _ listed _ _ => listed⟩, h.timer, h.ahead,
    h.behind, h.after, h.within⟩

/-- Until the next job is due, the clock can move on. -/
theorem Polled.wait {later : Nat} (h : Polled ρ k producer n a moment c) (forth : moment ≤ later)
    (quiet : ∀ j ∈ c.agenda, ∀ d, j.due = some d → later ≤ d) :
    Polled ρ k producer n a later c := by
  obtain ⟨s, there, own, attended, stage⟩ := h.slot
  obtain ⟨t, listed, key, duty, due⟩ := h.timer
  refine ⟨⟨s, there, own, attended, ?_⟩, h.timer, quiet t listed _ due,
    Nat.le_trans h.behind (Nat.add_le_add_right forth _), h.after, h.within⟩
  cases stage with
  | begins flying listed own duty due ahead =>
    exact .begins flying listed own duty due (quiet _ listed _ due)
  | waits flying listed own duty due ahead =>
    exact .waits flying listed own duty due (quiet _ listed _ due)
  | ended idle past => exact .ended idle (Nat.le_trans past forth)

/-! ### What a job does to it -/

/-- The fetch in flight ends, however it is answered. -/
theorem settle_current {f : Flight} (now : Time.Instant) (c : Cache α) (alive : c.abandoned = false)
    (there : c.slots.find? k = some s) (flying : s.inFlight = some f) (result : Except String α) :
    ∃ s', (c.settle now k f.generation result).slots.find? k = some s' ∧ s'.inFlight = none ∧
      s'.producer = s.producer ∧ s'.subscribers = s.subscribers := by
  rw [settle, alive, if_neg Bool.false_ne_true, commit_current there flying]
  cases result with
  | ok a => exact ⟨_, find?_setSlot_self .., rfl, rfl, rfl⟩
  | error message => exact ⟨_, find?_setSlot_self .., rfl, rfl, rfl⟩

/-- Every other job leaves the timer as it is set. -/
theorem Ticks.kept {w : Course α} (hw : w.Reachable) (h : Ticks ρ k n w.cache)
    (listed : j ∈ w.cache.agenda) (untimed : j.key = k → ∀ p, j.duty ≠ .poll p) :
    Ticks ρ k n (w.cache.runJob supplier now j state).1 := by
  obtain ⟨t, standing, key, polls, due⟩ := h
  refine ⟨t, kept_runJob hw.staffed.numbered listed standing ?_, key, polls, due⟩
  rintro rfl
  exact untimed key _ polls

namespace Polled

variable {w : Course α}

/-- A job that is neither the timer nor carries out the fetch in flight leaves polling where it is. -/
theorem aside (hw : w.Reachable) (h : Polled ρ k producer n a moment w.cache)
    (listed : j ∈ w.cache.agenda) (untimed : j.key = k → ∀ p, j.duty ≠ .poll p)
    (other : j.key = k → ∀ g, j.generation? = some g → ¬ w.cache.Flying k g) :
    Polled ρ k producer n a moment (w.cache.runJob supplier now j state).1 := by
  obtain ⟨s, there, own, attended, stage⟩ := h.slot
  have aside : Aside k w.cache j :=
    ⟨untimed, fun same g i call duty => other same g (by rw [Job.generation?, duty])⟩
  refine ⟨⟨s, aside.find?_runJob there attended, own, attended, stage.keeps ?_⟩,
    h.timer.kept hw listed untimed, h.ahead, h.behind, h.after, h.within⟩
  rintro f i flying hi same carries
  refine kept_runJob hw.staffed.numbered listed hi ?_
  rintro rfl
  exact other same _ carries ⟨s, f, there, flying, rfl⟩

/-- The fetch calls its producer. -/
theorem calls (hw : w.Reachable) (h : Polled ρ k producer n a now.elapsed w.cache) {f : Flight}
    (there : w.cache.slots.find? k = some s) (flying : s.inFlight = some f)
    (listed : j ∈ w.cache.agenda) (own : j.key = k) (duty : j.duty = .call f.generation producer)
    (moment : now.elapsed = ρ.fetch a) (takes : (supplier.call producer state).2.2 = some ρ.delay) :
    Polled ρ k producer n a now.elapsed (w.cache.runJob supplier now j state).1 := by
  obtain ⟨s', there', same, attended, -⟩ := h.slot
  obtain rfl := Option.some.inj (there.symm.trans there')
  have timer : Ticks ρ k n (w.cache.runJob supplier now j state).1 :=
    h.timer.kept hw listed fun _ p polls => nomatch duty.symm.trans polls
  refine ⟨⟨s, ?_, same, attended, ?_⟩, timer, h.ahead, h.behind, h.after, h.within⟩
  · rw [runJob, duty]
    exact there
  · rw [runJob, duty]
    refine .waits flying (List.mem_map.mpr ⟨j, listed, if_pos rfl⟩) own rfl ?_ ?_
    · rw [takes, ← moment]
      rfl
    · rw [moment]
      exact Nat.le_add_right _ _

/-- The fetch takes the answer. -/
theorem answered (hw : w.Reachable) (h : Polled ρ k producer n a now.elapsed w.cache) {f : Flight}
    {call : Nat} (there : w.cache.slots.find? k = some s) (flying : s.inFlight = some f)
    (listed : j ∈ w.cache.agenda) (own : j.key = k) (duty : j.duty = .reply f.generation producer call)
    (past : ρ.fetch a + ρ.delay ≤ now.elapsed) :
    Polled ρ k producer n a now.elapsed (w.cache.runJob supplier now j state).1 := by
  obtain ⟨s₀, there₀, same, attended, -⟩ := h.slot
  obtain rfl := Option.some.inj (there.symm.trans there₀)
  have timer : Ticks ρ k n (w.cache.runJob supplier now j state).1 :=
    h.timer.kept hw listed fun _ p polls => nomatch duty.symm.trans polls
  obtain ⟨s', found, idle, producer', subscribers⟩ := settle_current now (w.cache.without j)
    (hw.alive there) there flying (supplier.reply producer call state)
  refine ⟨⟨s', ?_, producer'.trans same, subscribers ▸ attended, .ended idle past⟩,
    timer, h.ahead, h.behind, h.after, h.within⟩
  rw [runJob, duty, own]
  exact found

/-- The timer ticks while the fetch is in flight. -/
theorem skips (hw : w.Reachable) (h : Polled ρ k producer n a now.elapsed w.cache)
    (listed : j ∈ w.cache.agenda) (own : j.key = k) (duty : j.duty = .poll ρ.interval)
    (due : j.due = some now.elapsed) (moment : now.elapsed = ρ.tick n) (busy : w.cache.Busy k) :
    Polled ρ k producer (n + 1) a now.elapsed (w.cache.tick now j ρ.interval) ∧
      (w.cache.tick now j ρ.interval).journal = .skipped k :: w.cache.journal := by
  subst own
  obtain ⟨s, there, same, attended, stage⟩ := h.slot
  have early := stage.early (busy s there)
  have ticked : w.cache.tick now j ρ.interval =
      (w.cache.postponed now j ρ.interval).report (.skipped j.key) := by
    rw [tick_punctual due]
    exact scheduledFetch_busy busy
  have next := ρ.tick_succ n
  rw [ticked]
  refine ⟨⟨⟨s, there, same, attended, stage.keeps ?_⟩,
    ⟨_, mem_postponed now j _ _, rfl, duty, ?_⟩, ?_, ?_,
    Nat.lt_succ_of_lt h.after, ρ.skips h.after h.within (moment ▸ early)⟩, rfl⟩
  · intro f i flying hi _ carries
    refine List.mem_append_left _ (Agenda.mem_remove.mpr ⟨hi, fun number => ?_⟩)
    obtain rfl := hw.staffed.numbered.job hi listed number
    rw [Job.generation?, duty] at carries
    exact nomatch carries
  · rw [next, ← moment]
    rfl
  · omega
  · omega

/-- The timer ticks when no fetch is in flight. -/
theorem starts (h : Polled ρ k producer n a now.elapsed w.cache)
    (own : j.key = k) (duty : j.duty = .poll ρ.interval)
    (due : j.due = some now.elapsed) (moment : now.elapsed = ρ.tick n) (idle : ¬ w.cache.Busy k) :
    now.elapsed = ρ.fetch (a + 1) ∧
    Polled ρ k producer (n + 1) (a + 1) now.elapsed (w.cache.tick now j ρ.interval) ∧
      ∃ g, (w.cache.tick now j ρ.interval).journal = .started k g :: w.cache.journal := by
  subst own
  obtain ⟨s, there, same, attended, stage⟩ := h.slot
  have none : s.inFlight = none := by
    by_contra busy
    exact idle fun s' there' => Option.some.inj (there.symm.trans there') ▸ busy
  have past : ρ.fetch a + ρ.delay ≤ ρ.tick n := by
    cases stage with
    | begins flying => exact nomatch none.symm.trans flying
    | waits flying => exact nomatch none.symm.trans flying
    | ended _ past => exact moment ▸ past
  have beat : n = (a + 1) * ρ.beats := ρ.starts_next h.after h.within past
  have fetched : now.elapsed = ρ.fetch (a + 1) := by rw [moment, ρ.fetch_succ, ← beat]
  have ticked : w.cache.tick now j ρ.interval =
      (w.cache.postponed now j ρ.interval).launch now j.key s := by
    rw [tick_punctual due, scheduledFetch, startFetch_idle (c := w.cache.postponed ..) there none]
    rfl
  have next := ρ.tick_succ n
  have positive := ρ.beats_pos
  rw [ticked]
  refine ⟨fetched, ⟨⟨_, find?_setSlot_self .., same, attended, ?_⟩,
    ⟨_, List.mem_append_left _ (mem_postponed now j _ _), rfl, duty, ?_⟩, ?_, ?_, ?_, ?_⟩, _, rfl⟩
  · exact .begins rfl (List.mem_append_right _ (List.mem_singleton_self _)) rfl (same ▸ rfl)
      (congrArg some fetched) (Nat.le_of_eq fetched)
  · rw [next, ← moment]
    rfl
  · omega
  · omega
  · omega
  · rw [Nat.add_mul (a + 1), ← beat]
    omega

/-- The job that carries out the fetch in flight leads it on. -/
theorem flies (hw : w.Reachable) (h : Polled ρ k producer n a now.elapsed w.cache) {g : Nat}
    (listed : j ∈ w.cache.agenda) (due : j.isDue now.elapsed = true) (own : j.key = k)
    (carries : j.generation? = some g) (flying : w.cache.Flying k g)
    (takes : (supplier.call producer state).2.2 = some ρ.delay) :
    Polled ρ k producer n a now.elapsed (w.cache.runJob supplier now j state).1 := by
  obtain ⟨d, hd, passed⟩ := (Option.any_eq_true _ _).mp due
  have passed : d ≤ now.elapsed := of_decide_eq_true passed
  obtain ⟨s', f, there', flying', rfl⟩ := flying
  obtain ⟨s, there, same, attended, stage⟩ := h.slot
  obtain rfl := Option.some.inj (there'.symm.trans there)
  cases stage with
  | @begins f i flying listed' own' duty due ahead =>
    obtain rfl := Option.some.inj (flying'.symm.trans flying)
    have carries' : i.generation? = some f.generation := by rw [Job.generation?, duty]
    obtain rfl := hw.flight_unique there flying listed listed' own own' carries carries'
    obtain rfl := Option.some.inj (hd.symm.trans due)
    exact h.calls hw there flying listed own duty (Nat.le_antisymm ahead passed) takes
  | @waits f' i call flying listed' own' duty due ahead =>
    obtain rfl := Option.some.inj (flying'.symm.trans flying)
    have carries' : i.generation? = some f.generation := by rw [Job.generation?, duty]
    obtain rfl := hw.flight_unique there flying listed listed' own own' carries carries'
    obtain rfl := Option.some.inj (hd.symm.trans due)
    exact h.answered hw there flying listed own duty passed
  | ended idle => exact nomatch idle.symm.trans flying'

/-- The timer of the query ticks. -/
theorem ticks (hw : w.Reachable) (h : Polled ρ k producer n a now.elapsed w.cache) {p : Nat}
    (listed : j ∈ w.cache.agenda) (due : j.isDue now.elapsed = true) (own : j.key = k)
    (duty : j.duty = .poll p) :
    p = ρ.interval ∧ j.due = some now.elapsed ∧ now.elapsed = ρ.tick n := by
  obtain ⟨d, hd, passed⟩ := (Option.any_eq_true _ _).mp due
  have passed : d ≤ now.elapsed := of_decide_eq_true passed
  obtain ⟨t, standing, key, polls, due⟩ := h.timer
  obtain rfl := hw.timer_unique listed standing (own.trans key.symm) duty polls
  obtain rfl := Option.some.inj (hd.symm.trans due)
  have moment : now.elapsed = ρ.tick n := Nat.le_antisymm h.ahead passed
  exact ⟨Duty.poll.inj (duty.symm.trans polls), moment ▸ due, moment⟩

/-- Whatever job runs, the next fetch is started at its moment or none is. -/
theorem run (hw : w.Reachable) (h : Polled ρ k producer n a now.elapsed w.cache)
    (listed : j ∈ w.cache.agenda) (due : j.isDue now.elapsed = true)
    (takes : (supplier.call producer state).2.2 = some ρ.delay) :
    let c := (w.cache.runJob supplier now j state).1
    (∃ n', Polled ρ k producer n' a now.elapsed c ∧ ∀ g, .started k g ∉ c.journal) ∨
      now.elapsed = ρ.fetch (a + 1) ∧ ∃ n' g, Polled ρ k producer n' (a + 1) now.elapsed c ∧
        c.journal = [.started k g] := by
  intro c
  by_cases timer : j.key = k ∧ ∃ p, j.duty = .poll p
  · obtain ⟨own, p, duty⟩ := timer
    obtain ⟨rfl, punctual, moment⟩ := h.ticks hw listed due own duty
    have ticked : c = w.cache.tick now j ρ.interval := by
      unfold c
      rw [runJob, duty]
    rw [ticked]
    by_cases busy : w.cache.Busy k
    · obtain ⟨skipped, journal⟩ := h.skips hw listed own duty punctual moment busy
      refine .inl ⟨n + 1, skipped, fun g reported => ?_⟩
      rw [journal, hw.booked] at reported
      cases List.mem_singleton.mp reported
    · obtain ⟨fetched, started, g, journal⟩ := h.starts own duty punctual moment busy
      exact .inr ⟨fetched, n + 1, g, started, by rw [journal, hw.booked]⟩
  · have untimed : j.key = k → ∀ p, j.duty ≠ .poll p :=
      fun own p duty => timer ⟨own, p, duty⟩
    refine .inl ⟨n, ?_, unstarted_runJob hw.booked listed untimed⟩
    by_cases current : j.key = k ∧ ∃ g, j.generation? = some g ∧ w.cache.Flying k g
    · obtain ⟨own, g, carries, flying⟩ := current
      exact h.flies hw listed due own carries flying takes
    · exact h.aside hw listed untimed fun own g carries flying => current ⟨own, g, carries, flying⟩

end Polled

/-! ### Where it begins -/

theorem Slot.period?_single {id p : Nat} (only : s.subscribers = [(id, p)]) (periodic : 0 < p) :
    s.period? = some p := by
  have asked : (p != 0) = true := bne_iff_ne.mpr (Nat.ne_of_gt periodic)
  rw [period?, only, List.map_singleton, List.filter_singleton, asked]
  rfl

/-- A timer is set for an entry that is to be polled and is not. -/
theorem reschedule_timed {p : Nat} (there : c.slots.find? k = some s) (asked : s.period? = some p)
    (untimed : s.timer = none) :
    c.reschedule now k = ((c.spawn now k (.poll p) (now.elapsed + p)).setSlot k
      { s with timer := some { period := p, job := c.nextJob } }).report (.timerScheduled k p) := by
  rw [reschedule_eq there, asked, untimed]
  rfl

/-- Whoever is the first to subscribe begins polling with a fetch. -/
theorem Polled.begin {o : Options} (now : Time.Instant) (k : Key) (producer : Nat)
    (begins : ρ.start = now.elapsed) (asked : o.interval = ρ.interval) (c : Cache α) :
    Polled ρ k producer 1 0 now.elapsed ((c.founded now k producer o).reschedule now k) ∧
      ∃ g, ((c.founded now k producer o).reschedule now k).journal =
        .timerScheduled k ρ.interval :: .started k g :: c.journal := by
  let s : Slot α :=
    { birth := c.nextNumber, entry := .idle k, producer, subscribers := [(c.nextNumber, o.interval)] }
  have founded : c.founded now k producer o =
      (c.numbered.found k producer o c.nextNumber).launch now k s := by
    rw [Cache.founded, startFetch_idle (find?_found ..) rfl]
  let flight : Flight := { generation := c.nextNumber + 1, job := c.nextJob }
  have there : ((c.numbered.found k producer o c.nextNumber).launch now k s).slots.find? k =
      some (({ s with inFlight := some flight }).publish Entry.begin) := find?_setSlot_self ..
  have interval : (({ s with inFlight := some flight }).publish Entry.begin).period? =
      some ρ.interval :=
    Slot.period?_single (congrArg (fun p => [(c.nextNumber, p)]) asked) ρ.periodic
  have first : ρ.fetch 0 = now.elapsed := by
    rw [Rhythm.fetch, Nat.zero_mul, Nat.add_zero, begins]
  have second : ρ.tick 1 = now.elapsed + ρ.interval := by
    rw [Rhythm.tick, Nat.one_mul, begins]
  rw [founded, reschedule_timed there interval rfl]
  refine ⟨⟨⟨_, find?_setSlot_self .., rfl, List.cons_ne_nil _ _, ?_⟩,
    ⟨_, List.mem_append_right _ (List.mem_singleton_self _), rfl, rfl, congrArg some second.symm⟩,
    ?_, ?_, ?_, ?_⟩, _, rfl⟩
  · exact .begins rfl
      (List.mem_append_left _ (List.mem_append_right _ (List.mem_singleton_self _))) rfl rfl
      (congrArg some first.symm) (Nat.le_of_eq first.symm)
  · omega
  · omega
  · rw [Nat.zero_mul]
    exact Nat.one_pos
  · rw [Nat.zero_add, Nat.one_mul]
    exact ρ.beats_pos

end TaskWatch.Cache
