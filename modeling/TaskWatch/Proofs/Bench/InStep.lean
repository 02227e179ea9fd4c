import TaskWatch.Proofs.Bench.Follows
import TaskWatch.Proofs.Bench.Ran
import TaskWatch.Proofs.Cache.Devoted
import TaskWatch.Proofs.Cache.InStep

/-! Benches in step.

    Let the producers of two benches take the same time for their calls, and answer them as they like.
    If the caches are in step, each bench runs a job when the other runs the same job, and they stay in
    step. So failures make no difference to when anything happens. -/

namespace TaskWatch.Bench

open Cache

variable {α : Type} {b b' : Bench α} {k : Key}

/-! ### Producers -/

/-- Both follow scripts that take the same time turn by turn, or both wait at gates. -/
inductive Supply.InStep : Supply α → Supply α → Prop
  | script {turns turns' : List (Turn α)} (delays : turns.map Turn.delay = turns'.map Turn.delay) :
      InStep (.script turns) (.script turns')
  | gated : InStep .gated .gated

/-- The calls stand at the same point, whatever they were told. -/
inductive Gate.InStep : Gate α → Gate α → Prop
  | waiting : InStep .waiting .waiting
  | told (result result' : Except String α) : InStep (.told result) (.told result')
  | spent : InStep .spent .spent

/-- The producers were called alike and take the same time; their answers may differ. -/
structure Producer.InStep (p p' : Producer α) : Prop where
  supply : p.supply.InStep p'.supply
  probe : p.probe = p'.probe
  gates : List.Forall₂ Gate.InStep p.gates p'.gates

theorem forall₂_set {β γ : Type} {R : β → γ → Prop} {x : β} {y : γ} (same : R x y) :
    ∀ {xs : List β} {ys : List γ} (i : Nat), List.Forall₂ R xs ys →
      List.Forall₂ R (xs.set i x) (ys.set i y)
  | [], [], _, .nil => .nil
  | _ :: _, _ :: _, 0, .cons _ rest => .cons same rest
  | _ :: _, _ :: _, i + 1, .cons first rest => .cons first (forall₂_set same i rest)

theorem forall₂_get {β γ : Type} {R : β → γ → Prop} :
    ∀ {xs : List β} {ys : List γ} (i : Nat), List.Forall₂ R xs ys → Option.Rel R xs[i]? ys[i]?
  | [], [], _, .nil => .none
  | _ :: _, _ :: _, 0, .cons same _ => .some same
  | _ :: _, _ :: _, i + 1, .cons _ rest => forall₂_get i rest

theorem map_eq_of_forall₂ {β γ δ : Type} {f : β → δ} {g : γ → δ} {xs : List β} {ys : List γ}
    (same : List.Forall₂ (fun x y => f x = g y) xs ys) : xs.map f = ys.map g := by
  induction same with
  | nil => rfl
  | cons first _ ih => rw [List.map_cons, List.map_cons, first, ih]

theorem delay_turnOf {turns turns' : List (Turn α)}
    (delays : turns.map Turn.delay = turns'.map Turn.delay) (call : Nat) :
    (Producer.turnOf turns call).delay = (Producer.turnOf turns' call).delay := by
  have length : turns.length = turns'.length := by
    rw [← turns.length_map Turn.delay, delays, List.length_map]
  have delay (turns : List (Turn α)) (i : Nat) :
      (turns.getD i { answer := .err exhausted }).delay = (turns.map Turn.delay).getD i 0 := by
    rw [List.getD_eq_getElem?_getD, List.getD_eq_getElem?_getD, List.getElem?_map]
    cases turns[i]? <;> rfl
  rw [Producer.turnOf, Producer.turnOf, delay, delay, delays, length]

namespace Producer.InStep

variable {p p' : Producer α}

/-- A call is given the same number and takes the same time. -/
theorem call (h : p.InStep p') : p.call.1.InStep p'.call.1 ∧ p.call.2 = p'.call.2 := by
  obtain ⟨supply, probe, gates⟩ := p
  obtain ⟨supply', probe', gates'⟩ := p'
  obtain ⟨supplies, probes, gated⟩ := h
  obtain rfl : probe = probe' := probes
  cases supplies with
  | script delays =>
    refine ⟨⟨.script delays, rfl, gated⟩, ?_⟩
    show (_, some _) = (_, some _)
    rw [delay_turnOf delays]
  | gated => exact ⟨⟨.gated, rfl, List.rel_append gated (.cons .waiting .nil)⟩, rfl⟩

theorem finish (h : p.InStep p') (call : Nat) : (p.finish call).InStep (p'.finish call) :=
  ⟨h.supply, congrArg Probe.leave h.probe, forall₂_set .spent call h.gates⟩

/-- A call can be answered in both or in neither. -/
theorem resolve (h : p.InStep p') (call : Nat) (result result' : Except String α) :
    (p.resolve call result).1.InStep (p'.resolve call result').1 ∧
      (p.resolve call result).2 = (p'.resolve call result').2 := by
  have gate := forall₂_get call h.gates
  have told : (p.setGate call (.told result)).InStep (p'.setGate call (.told result')) :=
    ⟨h.supply, h.probe, forall₂_set (.told _ _) call h.gates⟩
  unfold Producer.resolve
  generalize p.gates[call]? = found, p'.gates[call]? = found' at gate
  cases gate with
  | none => exact ⟨h, rfl⟩
  | some same =>
    cases same with
    | waiting => exact ⟨told, rfl⟩
    | told => exact ⟨h, rfl⟩
    | spent => exact ⟨h, rfl⟩

end Producer.InStep

/-- Both lists have a producer with this number, or neither has. -/
theorem producer_cases {ps ps' : List (Producer α)} (same : List.Forall₂ Producer.InStep ps ps')
    (i : Nat) : (ps[i]? = none ∧ ps'[i]? = none) ∨
      ∃ p p', ps[i]? = some p ∧ ps'[i]? = some p' ∧ p.InStep p' := by
  have found := forall₂_get i same
  generalize ps[i]? = one, ps'[i]? = other at found
  cases found with
  | none => exact .inl ⟨rfl, rfl⟩
  | some same => exact .inr ⟨_, _, rfl, rfl, same⟩

theorem supplier_call {ps ps' : List (Producer α)} (same : List.Forall₂ Producer.InStep ps ps')
    (i : Nat) : List.Forall₂ Producer.InStep (supplier.call i ps).1 (supplier.call i ps').1 ∧
      (supplier.call i ps).2 = (supplier.call i ps').2 := by
  rcases producer_cases same i with ⟨none, none'⟩ | ⟨p, p', some, some', alike⟩
  · simp only [supplier, none, none']
    exact ⟨same, trivial⟩
  · simp only [supplier, some, some']
    exact ⟨forall₂_set alike.call.1 i same, alike.call.2⟩

theorem supplier_finish {ps ps' : List (Producer α)} (same : List.Forall₂ Producer.InStep ps ps')
    (i call : Nat) :
    List.Forall₂ Producer.InStep (supplier.finish i call ps) (supplier.finish i call ps') := by
  rcases producer_cases same i with ⟨none, none'⟩ | ⟨p, p', some, some', alike⟩
  · simp only [supplier, none, none']
    exact same
  · simp only [supplier, some, some']
    exact forall₂_set (alike.finish call) i same

/-- To run a job keeps caches and producers in step. -/
theorem runJob_inStep {c c' : Cache α} {ps ps' : List (Producer α)} (h : c.InStep c')
    (same : List.Forall₂ Producer.InStep ps ps') (now : Time.Instant) (j : Job) :
    (c.runJob supplier now j ps).1.InStep (c'.runJob supplier now j ps').1 ∧
      List.Forall₂ Producer.InStep (c.runJob supplier now j ps).2 (c'.runJob supplier now j ps').2 := by
  have without : (c.without j).InStep (c'.without j) := h.onAgenda (·.remove j.number)
  unfold runJob
  cases j.duty with
  | call g producer =>
    obtain ⟨called, answer⟩ := supplier_call same producer
    simp only [placeCall, answer]
    exact ⟨h.onAgenda _, called⟩
  | reply g producer call => exact ⟨without.settle g _ _, supplier_finish same producer call⟩
  | release producer call => exact ⟨without, supplier_finish same producer call⟩
  | poll period => exact ⟨h.tick j period, same⟩
  | collect token => exact ⟨without.collect token, same⟩

/-! ### Benches -/

/-- The lines were written at the same moment, and report the same event or the end of the same
    fetch. -/
def SameLine (l l' : Nat × Log.Line) : Prop :=
  l.1 = l'.1 ∧ ∃ e e' : Event, e.InStep e' ∧ l.2 = e.line ∧ l'.2 = e'.line

/-- Two benches that differ in what their fetches brought only. Their cache is devoted to one
    query. -/
structure InStep (k : Key) (b b' : Bench α) : Prop where
  now : b.now = b'.now
  turn : b.turn = b'.turn
  origin : b.origin = b'.origin
  cache : b.cache.InStep b'.cache
  producers : List.Forall₂ Producer.InStep b.producers b'.producers
  log : List.Forall₂ SameLine b.log b'.log
  devoted : b.cache.Devoted k

namespace InStep

theorem instant (h : b.InStep k b') : b.instant = b'.instant := by
  rw [Bench.instant, Bench.instant, h.now, h.turn, h.origin]

/-- What the caches report is put on both logs. -/
theorem withCache (h : b.InStep k b') {c c' : Cache α} (same : c.InStep c') (devoted : c.Devoted k) :
    (b.withCache c).InStep k (b'.withCache c') := by
  refine ⟨h.now, congrArg (· + 1) h.turn, h.origin, same.booked, h.producers, ?_, devoted.booked⟩
  refine List.rel_append (List.forall₂_map_left_iff.mpr (List.forall₂_map_right_iff.mpr ?_)) h.log
  exact same.journal.imp fun _ _ alike => ⟨h.now, _, _, alike, rfl, rfl⟩

theorem withProducers (h : b.InStep k b') {ps ps' : List (Producer α)}
    (same : List.Forall₂ Producer.InStep ps ps') :
    InStep k { b with producers := ps } { b' with producers := ps' } :=
  { h with producers := same }

theorem shifted (h : b.InStep k b') (now : Nat) : InStep k { b with now } { b' with now } :=
  { h with now := rfl }

theorem run (h : b.InStep k b') {j : Job} (listed : j ∈ b.cache.agenda) :
    (b.run j).InStep k (b'.run j) := by
  obtain ⟨cache, producers⟩ := runJob_inStep h.cache h.producers b.instant j
  unfold Bench.run
  dsimp only
  rw [← h.instant]
  exact (h.withProducers producers).withCache cache (h.devoted.runJob supplier _ listed)

end InStep

/-- Both benches ran the same job at the same moment; that of the first was due. -/
structure SameRun (k : Key) (ran ran' : Bench α × Job) : Prop where
  inStep : ran.1.InStep k ran'.1
  job : ran.2 = ran'.2
  listed : ran.2 ∈ ran.1.cache.agenda

namespace InStep

theorem runDue (fuel : Nat) (h : b.InStep k b') : (b.runDue fuel).InStep k (b'.runDue fuel) ∧
    List.Forall₂ (SameRun k) (b.ranDue fuel) (b'.ranDue fuel) := by
  induction fuel generalizing b b' with
  | zero => exact ⟨h, .nil⟩
  | succ fuel ih =>
    unfold Bench.runDue Bench.ranDue
    rw [← h.cache.agenda, ← h.now]
    cases next : b.cache.agenda.next? b.now with
    | none => exact ⟨h, .nil⟩
    | some j =>
      have listed : j ∈ b.cache.agenda := (Agenda.next?_due next).1
      obtain ⟨rested, ran⟩ := ih (h.run listed)
      exact ⟨rested, .cons ⟨h, rfl, listed⟩ ran⟩

theorem rest (h : b.InStep k b') :
    b.rest.InStep k b'.rest ∧ List.Forall₂ (SameRun k) b.ran b'.ran := by
  unfold Bench.rest Bench.ran
  rw [← h.cache.agenda]
  exact h.runDue _

theorem settle (h : b.InStep k b') (now : Nat) :
    InStep k (Time.Passing.settle now b) (Time.Passing.settle now b') ∧
      List.Forall₂ (SameRun k) (b.ranAt now) (b'.ranAt now) :=
  (h.shifted now).rest

theorem advance (last now : Nat) (h : b.InStep k b') :
    (Time.advance last now b).InStep k (Time.advance last now b') ∧
      List.Forall₂ (SameRun k) (Time.advanced ranAt last now b)
        (Time.advanced ranAt last now b') := by
  have wakes : Time.Passing.wakes? now b' = Time.Passing.wakes? now b :=
    congrArg (Agenda.wakes? · now) h.cache.agenda.symm
  fun_induction Time.advance last now b generalizing b' with
  | case1 now b asleep =>
    rw [Time.advance.eq_def last now b', Time.advanced.eq_def ranAt last now b,
      Time.advanced.eq_def ranAt last now b', wakes, asleep]
    exact ⟨h, .nil⟩
  | case2 now b d due within ih =>
    obtain ⟨settled, ran⟩ := h.settle d
    obtain ⟨passed, later⟩ :=
      ih settled (congrArg (Agenda.wakes? · d) settled.cache.agenda.symm)
    rw [Time.advance.eq_def last now b', Time.advanced.eq_def ranAt last now b,
      Time.advanced.eq_def ranAt last now b', wakes, due]
    simp only [within, and_self, dite_true]
    exact ⟨passed, List.rel_append ran later⟩
  | case3 now b d due beyond =>
    rw [Time.advance.eq_def last now b', Time.advanced.eq_def ranAt last now b,
      Time.advanced.eq_def ranAt last now b', wakes, due]
    simp only [beyond, dite_false]
    exact ⟨h, .nil⟩

theorem sleep (h : b.InStep k b') (ms : Nat) :
    (b.sleep ms).InStep k (b'.sleep ms) ∧ List.Forall₂ (SameRun k) (b.slept ms) (b'.slept ms) := by
  obtain ⟨rested, ran⟩ := h.rest
  obtain ⟨passed, later⟩ := rested.advance (b.now + ms) b.now
  unfold Bench.sleep Bench.slept
  rw [← h.now]
  exact ⟨passed.shifted _, List.rel_append ran later⟩

theorem jump (h : b.InStep k b') (ms : Nat) :
    (b.jump ms).InStep k (b'.jump ms) ∧ List.Forall₂ (SameRun k) (b.leapt ms) (b'.leapt ms) := by
  obtain ⟨rested, ran⟩ := h.settle b.now
  obtain ⟨landed, later⟩ := rested.settle (b.now + ms)
  unfold Bench.jump Time.leap Bench.leapt
  rw [← h.now]
  exact ⟨landed, List.rel_append ran later⟩

/-- A call is answered in both, perhaps differently. -/
theorem resolve (h : b.InStep k b') (producer call : Nat) (result result' : Except String α) :
    (b.resolve producer call result).1.InStep k (b'.resolve producer call result').1 := by
  unfold Bench.resolve
  rcases producer_cases h.producers producer with ⟨none, none'⟩ | ⟨p, p', some, some', alike⟩
  · rw [none, none']
    exact h
  · obtain ⟨told, done⟩ := alike.resolve call result result'
    rw [some, some']
    dsimp only
    rw [done, ← h.now, ← h.turn]
    split
    · exact h
    · have devoted : Devoted k { b.cache with
          agenda := Agenda.answered b.instant (waitsFor producer call) b.cache.agenda } :=
        h.devoted.spared (h.devoted.staffed.shuffle (fun _ => rfl)
          (numbered_answered h.devoted.staffed.numbered) (fun _ _ _ => has_answered) rfl) fun _ => rfl
      exact (h.withProducers (forall₂_set told producer h.producers)).withCache
        (h.cache.onAgenda (Agenda.answered b.instant (waitsFor producer call))) devoted

end InStep

end TaskWatch.Bench
