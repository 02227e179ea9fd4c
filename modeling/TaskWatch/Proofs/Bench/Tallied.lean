import TaskWatch.Proofs.Bench.Elapsing
import TaskWatch.Proofs.Bench.Tally
import TaskWatch.Proofs.Cache.Custody

/-! What the probes of a bench count.

    In a run calls begin and end as the jobs of a cache have it, and nobody keeps a list of that. But there
    is a past for each producer that explains what has become of it, and in which the calls under way are
    just those that jobs hold. So its probe tells at any time how many jobs hold a call of it. -/

namespace TaskWatch.Bench

open Cache Agenda

variable {α : Type} {b b' : Bench α} {i l number : Nat} {fresh p : Producer α} {j : Job}
  {past : List (Incident α)} {producers producers' : List (Producer α)} {agenda agenda' : Agenda}

/-- The producer with this number has become what it is by what lies in its past, and jobs hold its calls
    that are under way. -/
structure Tallied (i : Nat) (fresh : Producer α) (producers : List (Producer α)) (agenda : Agenda)
    (past : List (Incident α)) : Prop where
  lawful : Lawful past
  producer : producers[i]? = some (fresh.after past)
  held : (agenda.held i).Perm (underWay past)

/-- There is such a past. -/
def Tells (i : Nat) (fresh : Producer α) (b : Bench α) : Prop :=
  ∃ past, Tallied i fresh b.producers b.cache.agenda past

/-! ### Producers of a bench -/

theorem supplier_call_other (differ : l ≠ i) (producers : List (Producer α)) :
    (supplier.call l producers).1[i]? = producers[i]? := by
  dsimp only [supplier]
  cases producers[l]? with
  | none => rfl
  | some p => exact List.getElem?_set_ne differ

theorem supplier_finish_other (differ : l ≠ i) (call : Nat) (producers : List (Producer α)) :
    (supplier.finish l call producers)[i]? = producers[i]? := by
  dsimp only [supplier]
  cases producers[l]? with
  | none => rfl
  | some p => exact List.getElem?_set_ne differ

theorem getElem?_set_of_some {p' : Producer α} (found : producers[i]? = some p) :
    (producers.set i p')[i]? = some p' :=
  List.getElem?_set_self (List.getElem?_eq_some_iff.mp found).1

theorem supplier_call_self (found : producers[i]? = some p) :
    (supplier.call i producers).1[i]? = some p.call.1 ∧
      (supplier.call i producers).2.1 = p.probe.calls := by
  have number : p.call.2.1 = p.probe.calls := by
    unfold Producer.call
    cases p.supply <;> rfl
  simp only [supplier, found]
  exact ⟨getElem?_set_of_some found, number⟩

theorem supplier_finish_self (found : producers[i]? = some p) (call : Nat) :
    (supplier.finish i call producers)[i]? = some (p.finish call) := by
  simp only [supplier, found]
  exact getElem?_set_of_some found

namespace Tallied

/-- A producer that is left alone, while jobs hold what they held, has the same past. -/
theorem stays (h : Tallied i fresh producers agenda past) (producer : producers'[i]? = producers[i]?)
    (held : (agenda'.held i).Perm (agenda.held i)) : Tallied i fresh producers' agenda' past :=
  ⟨h.lawful, producer.trans h.producer, held.trans h.held⟩

/-- A job calls the producer, and holds the call from then on. -/
theorem begin (zero : fresh.probe = {}) (h : Tallied i fresh producers agenda past)
    (producer : producers'[i]? = some (fresh.after past).call.1)
    (held : (agenda'.held i).Perm (agenda.held i ++ [(fresh.after past).probe.calls])) :
    Tallied i fresh producers' agenda' (.begin :: past) := by
  refine ⟨.begin h.lawful, producer, ?_⟩
  rw [h.lawful.underWay_begin, ← Producer.calls_after zero past]
  exact held.trans (h.held.append_right _)

/-- A job that held a call of the producer is done with it. -/
theorem ends {e : Incident α} (h : Tallied i fresh producers agenda past)
    (ends : e = .finish number ∨ e = .drop number)
    (producer : producers'[i]? = some ((fresh.after past).finish number))
    (held : (agenda.held i).Perm (agenda'.held i ++ [number])) :
    Tallied i fresh producers' agenda' (e :: past) := by
  have running : number ∈ underWay past :=
    h.held.subset (held.symm.subset (List.mem_append_right _ (List.mem_singleton_self number)))
  have rest : (agenda'.held i).Perm (underWay (e :: past)) := by
    have fewer := ((List.perm_append_singleton number _).symm.trans (held.symm.trans h.held)).erase number
    rwa [List.erase_cons_head, ← underWay_ends ends] at fewer
  rcases ends with rfl | rfl
  · exact ⟨.finish h.lawful running, producer, rest⟩
  · exact ⟨.drop h.lawful running, producer, rest⟩

end Tallied

/-! ### Jobs and time -/

theorem Followed.manned (h : b.Followed) : b.cache.Manned := by
  obtain ⟨w, hw, follows⟩ := h
  rw [← follows.cache]
  exact hw.reachable.staffed.mono fun _ _ _ => trivial

theorem Followed.held_dropEntries (h : b.Followed) (now : Time.Instant) :
    ((b.cache.dropEntries now).agenda.held i).Perm (b.cache.agenda.held i) := by
  obtain ⟨w, hw, follows⟩ := h
  rw [← follows.cache]
  exact Cache.held_dropEntries hw.reachable.staffed hw.reachable.registered

namespace Tells

/-- What is done to the cache leaves the calls alone that jobs hold. -/
theorem withCache (h : Tells i fresh b) {c : Cache α}
    (held : (c.agenda.held i).Perm (b.cache.agenda.held i)) : Tells i fresh (b.withCache c) := by
  obtain ⟨past, h⟩ := h
  exact ⟨past, h.stays rfl held⟩

/-- A job calls a producer, and waits for the answer where it stood. -/
theorem of_call {g : Nat} {due : Option Nat} (zero : fresh.probe = {})
    (h : Tallied i fresh b.producers b.cache.agenda past) (manned : b.cache.Manned)
    (listed : j ∈ b.cache.agenda) (duty : j.duty = .call g l)
    (producers : b'.producers = (supplier.call l b.producers).1)
    (agenda : b'.cache.agenda = b.cache.agenda.change j.number fun j =>
      { j with duty := .reply g l (supplier.call l b.producers).2.1, due }) : Tells i fresh b' := by
  have held := held_place (i := i) (supplier.call l b.producers).2.1 due manned.numbered listed duty
  rw [← agenda, Duty.holds?] at held
  by_cases own : l = i
  · subst own
    obtain ⟨producer, number⟩ := supplier_call_self h.producer
    rw [if_pos rfl, number] at held
    exact ⟨_, h.begin zero (producers ▸ producer) held⟩
  · rw [if_neg own, Option.toList_none, List.append_nil] at held
    exact ⟨past, h.stays (producers ▸ supplier_call_other own _) held⟩

/-- A job that is done with a call is done with the producer as well. -/
theorem of_ends {e : Incident α} (h : Tallied i fresh b.producers b.cache.agenda past)
    (ends : e = .finish number ∨ e = .drop number) (manned : b.cache.Manned)
    (listed : j ∈ b.cache.agenda) (holds : j.duty.holds? i = if l = i then some number else none)
    (producers : b'.producers = supplier.finish l number b.producers)
    (agenda : b'.cache.agenda = b.cache.agenda.remove j.number) : Tells i fresh b' := by
  have removed := held_remove (i := i) manned.numbered listed
  rw [holds, ← agenda] at removed
  by_cases own : l = i
  · subst own
    rw [if_pos rfl] at removed
    exact ⟨_, h.ends ends (producers ▸ supplier_finish_self h.producer number) removed⟩
  · rw [if_neg own, Option.toList_none, List.append_nil] at removed
    exact ⟨past, h.stays (producers ▸ supplier_finish_other own number _) removed.symm⟩

theorem run (zero : fresh.probe = {}) (h : Tells i fresh b) (followed : b.Followed)
    (listed : j ∈ b.cache.agenda) : Tells i fresh (b.run j) := by
  obtain ⟨past, h⟩ := h
  have manned := followed.manned
  obtain ⟨c, producers, ran⟩ : ∃ c producers,
      b.cache.runJob supplier b.instant j b.producers = (c, producers) := ⟨_, _, rfl⟩
  have done : b.run j = { b with producers }.withCache c := by rw [Bench.run, ran]
  rw [done]
  rw [runJob] at ran
  cases duty : j.duty with
  | call g l =>
    rw [duty] at ran
    obtain ⟨rfl, rfl⟩ := Prod.mk.inj ran
    exact of_call zero h manned listed duty rfl rfl
  | reply g l call =>
    rw [duty] at ran
    obtain ⟨rfl, rfl⟩ := Prod.mk.inj ran
    exact of_ends h (.inl rfl) manned listed (by rw [duty]; rfl) rfl agenda_settle
  | release l call =>
    rw [duty] at ran
    obtain ⟨rfl, rfl⟩ := Prod.mk.inj ran
    exact of_ends h (.inr rfl) manned listed (by rw [duty]; rfl) rfl rfl
  | poll period =>
    rw [duty] at ran
    obtain ⟨rfl, rfl⟩ := Prod.mk.inj ran
    exact ⟨past, h.stays rfl (keeps_tick listed duty manned).2⟩
  | collect token =>
    rw [duty] at ran
    obtain ⟨rfl, rfl⟩ := Prod.mk.inj ran
    have none : j.duty.holds? i = none := by rw [duty]; rfl
    have removed := held_remove_of_none manned.numbered listed none
    exact ⟨past, h.stays rfl (agenda_collect (c := b.cache.without j) ▸ removed)⟩

theorem elapses {ran : List (Bench α × Job)} (zero : fresh.probe = {}) (h : Tells i fresh b)
    (followed : b.Followed) (elapses : Elapses b ran b') : Tells i fresh b' := by
  induction elapses with
  | stay b => exact h
  | run listed due _ ih => exact ih (h.run zero followed listed) (followed.run listed due).1
  | wait idle forth quiet _ ih => exact ih h (followed.goes (goes_clock idle forth))

theorem rest (zero : fresh.probe = {}) (h : Tells i fresh b) (followed : b.Followed) :
    Tells i fresh b.rest :=
  h.elapses zero followed (.rest b)

/-- So it is at every moment, as time passes on a bench that has come to rest. -/
theorem kept (i : Nat) (zero : fresh.probe = {}) : Time.Kept fun now (b : Bench α) =>
    b.now = now ∧ b.Followed ∧ b.Idle ∧ Tells i fresh b := by
  rintro _ later b forth ⟨rfl, followed, idle, h⟩
  obtain ⟨settled, calm⟩ := followed.settle idle forth
  exact ⟨now_settle later b, settled, calm, rest (b := { b with now := later }) zero h
    (followed.goes (goes_clock idle forth))⟩

theorem await {β : Type} (zero : fresh.probe = {}) (h : Tells i fresh b) (followed : b.Followed)
    (seen : Bench α → Option β) (timeout : Nat) : Tells i fresh (b.await seen timeout).1 := by
  unfold Bench.await
  split
  · exact h
  · split
    · exact h
    · obtain ⟨_, -, -, -, -, waited⟩ := (kept i zero).await seen
        ⟨now_rest b, followed.rest, followed.idle_rest, h.rest zero followed⟩
        (Nat.le_add_right b.now timeout)
      exact waited

theorem jump (zero : fresh.probe = {}) (h : Tells i fresh b) (followed : b.Followed) (ms : Nat) :
    Tells i fresh (b.jump ms) := by
  have later : b.rest.now ≤ b.now + ms := now_rest b ▸ Nat.le_add_right b.now ms
  obtain ⟨-, -, -, jumped⟩ := kept i zero _ (b.now + ms) b.rest later
    ⟨rfl, followed.rest, followed.idle_rest, h.rest zero followed⟩
  exact jumped

/-- Whoever answers a call ends none. -/
theorem resolve (h : Tells i fresh b) (l call : Nat) (r : Except String α) :
    Tells i fresh (b.resolve l call r).1 := by
  obtain ⟨past, h⟩ := h
  unfold Bench.resolve
  cases found : b.producers[l]? with
  | none => exact ⟨past, h⟩
  | some p =>
    dsimp only
    split
    · exact ⟨past, h⟩
    · have held := held_answered (i := i) b.instant (waitsFor l call) b.cache.agenda
      by_cases own : l = i
      · subst own
        obtain rfl := Option.some.inj (found.symm.trans h.producer)
        exact ⟨.resolve call r :: past, .resolve h.lawful call r, getElem?_set_of_some found,
          held.trans h.held⟩
      · exact ⟨past, h.stays (List.getElem?_set_ne own) held⟩

end Tells

/-! ### Runs -/

namespace Run

variable [BEq α] {r : Run α}

/-- Whatever a user does, calls end only in jobs. -/
theorem tells_act (zero : fresh.probe = {}) (h : Tells i fresh r.bench) (tracked : r.Tracked)
    (s : Step α) : Tells i fresh (r.act s).1.bench := by
  have onCache {f : Cache α → Run α × Outcome α}
      (does : r.bench.cache.abandoned = false → Tells i fresh (f r.bench.cache).1.bench) :
      Tells i fresh (r.onCache f).1.bench :=
    onCache_cases (P := fun done => Tells i fresh done.1.bench) h does
  have onHandle {l : Nat} {f : Handle → Run α × Outcome α}
      (does : ∀ h, Tells i fresh (f h).1.bench) : Tells i fresh (r.onHandle l f).1.bench :=
    onHandle_cases (P := fun done => Tells i fresh done.1.bench) h fun h _ => does h
  have followed := tracked.followed
  have user {c : Cache α} (keeps : Keeps i r.bench.cache c) :
      Tells i fresh (r.bench.withCache c) := h.withCache (keeps followed.manned).2
  cases s with
  | subscribe key producer options =>
    refine onCache fun alive => ?_
    split
    · rename_i c handle done
      exact user (keeps_subscribe alive done)
    · exact h
  | unsubscribe l =>
    refine onHandle fun handle => ?_
    dsimp only
    split
    · exact h
    · exact user keeps_unsubscribe
  | current l => exact onHandle fun _ => by split <;> exact h
  | latest l => exact onHandle fun _ => by split <;> exact h
  | keyOf l => exact onHandle fun _ => h
  | changed l timeout =>
    refine onHandle fun handle => ?_
    have waited := h.await zero followed (fun b => handle.change? b.cache) timeout
    dsimp only
    split <;> exact waited
  | waitFor l wish timeout =>
    exact onHandle fun handle =>
      h.await zero followed (fun b => handle.match? (fun e => wish.holds e) b.cache) timeout
  | entry key stale => exact onCache fun _ => by split <;> exact h
  | refetch key =>
    refine onCache fun _ => ?_
    split
    · rename_i c done
      exact user (keeps_refetch done)
    · exact h
  | invalidate key => exact onCache fun _ => user keeps_invalidate
  | clear => exact onCache fun _ => h.withCache (followed.held_dropEntries _)
  | hitRate => exact onCache fun _ => h
  | grace => exact onCache fun _ => h
  | abandon => exact h.withCache (followed.held_dropEntries _)
  | resolve producer call result => exact h.resolve producer call result
  | sleep ms => exact h.elapses zero followed (followed.elapses_sleep ms)
  | jump ms => exact h.jump zero followed ms

theorem tells_steps (zero : fresh.probe = {}) (done : List (Step α × Bool)) {r : Run α}
    (h : Tells i fresh r.bench) (tracked : r.Tracked) : Tells i fresh (r.steps done).bench := by
  induction done generalizing r with
  | nil => exact h
  | cons step rest ih =>
    obtain ⟨s, hold⟩ := step
    have acted := tells_act zero h tracked s
    have tracked' := tracked.goesOn (goesOn_act r s)
    refine ih ?_ (tracked.goesOn (goesOn_stepped r s hold))
    cases hold with
    | true => exact acted
    | false => exact acted.rest zero tracked'.followed

/-- Whatever is done on a bench, each of its producers that was not called before has become what it is by
    calls of which only such as were under way have ended, and those under way are held by jobs. -/
theorem tells_fresh (grace : Nat) (now : Nat) (origin : Time.Stamp) (done : List (Step α × Bool))
    (found : producers[i]? = some fresh) (zero : fresh.probe = {}) :
    Tells i fresh ((Run.fresh grace producers now origin).steps done).bench :=
  tells_steps zero done ⟨[], .nothing, found, .refl _⟩ (punctual_steps rfl rfl [])

/-- At any time in a run the probe of a producer counts as running just the calls that jobs of the cache
    hold, and the jobs hold calls that began, and no call twice. -/
theorem running_eq_held (grace : Nat) (now : Nat) (origin : Time.Stamp) (done : List (Step α × Bool))
    (found : producers[i]? = some fresh) (zero : fresh.probe = {}) :
    let b := ((Run.fresh grace producers now origin).steps done).bench
    ∃ probe, b.probes[i]? = some probe ∧ probe.running = (b.cache.agenda.held i).length ∧
      (b.cache.agenda.held i).Nodup ∧ ∀ call ∈ b.cache.agenda.held i, call < probe.calls := by
  intro b
  obtain ⟨past, lawful, producer, held⟩ := tells_fresh grace now origin done found zero
  refine ⟨(fresh.after past).probe, ?_, ?_, ?_, fun call holds => ?_⟩
  · rw [probes, List.getElem?_map, producer]
    rfl
  · rw [Producer.running_after zero lawful, held.length_eq]
  · exact held.nodup_iff.mpr (nodup_underWay past)
  · rw [Producer.calls_after zero]
    exact (mem_underWay.mp (held.subset holds)).1

end Run

end TaskWatch.Bench
