import Mathlib.Order.Bounds.Basic
import TaskWatch.Bench.Producer

/-! What a producer counts, and what it answers.

    Calls begin, and they end because they are answered or because nobody waits for them any more, in any
    order and with any number of them under way. The past of a producer lists all of that, and which calls
    somebody wanted to answer, the latest first. What is under way can be told from the past alone, so the
    counts of the producer can be held against it. -/

namespace TaskWatch.Bench

variable {α : Type}

/-! ### The past -/

/-- What happens to a producer. -/
inductive Incident (α : Type) where
  /-- A call begins. -/
  | begin
  /-- A call is answered. -/
  | finish (call : Nat)
  /-- Nobody waits for a call any more. -/
  | drop (call : Nat)
  /-- Somebody wants to answer a call at its gate. -/
  | resolve (call : Nat) (result : Except String α)

/-- The call ends. -/
def Incident.ends (call : Nat) : Incident α → Bool
  | .finish c | .drop c => c == call
  | _ => false

/-- How many calls began. -/
def begun : List (Incident α) → Nat
  | [] => 0
  | .begin :: past => begun past + 1
  | _ :: past => begun past

/-- The calls that began, and neither finished nor were dropped. -/
def underWay (past : List (Incident α)) : List Nat :=
  (List.range (begun past)).filter (fun call => !past.any (Incident.ends call))

/-- What can have happened: only a call that is under way ends. -/
inductive Lawful : List (Incident α) → Prop
  | nothing : Lawful []
  | begin {past : List (Incident α)} (lawful : Lawful past) : Lawful (.begin :: past)
  | finish {past : List (Incident α)} (lawful : Lawful past) {call : Nat}
      (running : call ∈ underWay past) : Lawful (.finish call :: past)
  | drop {past : List (Incident α)} (lawful : Lawful past) {call : Nat}
      (running : call ∈ underWay past) : Lawful (.drop call :: past)
  | resolve {past : List (Incident α)} (lawful : Lawful past) (call : Nat)
      (result : Except String α) : Lawful (.resolve call result :: past)

variable {past : List (Incident α)} {e : Incident α} {call : Nat}

theorem mem_underWay : call ∈ underWay past ↔ call < begun past ∧ past.any (Incident.ends call) = false := by
  simp [underWay]

theorem nodup_underWay (past : List (Incident α)) : (underWay past).Nodup := List.nodup_range.filter _

/-- Only calls that began have ended. -/
theorem Lawful.lt_of_ended (lawful : Lawful past) (ended : past.any (Incident.ends call) = true) :
    call < begun past := by
  induction lawful with
  | nothing => exact nomatch ended
  | begin _ ih => exact Nat.lt_succ_of_lt (ih ended)
  | resolve _ c result ih => exact ih ended
  | @finish past _ c running ih | @drop past _ c running ih =>
    rw [List.any_cons, Bool.or_eq_true] at ended
    rcases ended with now | before
    · obtain rfl : c = call := beq_iff_eq.mp now
      exact (mem_underWay.mp running).1
    · exact ih before

theorem Lawful.underWay_begin (lawful : Lawful past) :
    underWay (.begin :: past) = underWay past ++ [begun past] := by
  have fresh : past.any (Incident.ends (begun past)) = false :=
    Bool.eq_false_iff.mpr fun ended => Nat.lt_irrefl _ (lawful.lt_of_ended ended)
  rw [underWay, begun, List.range_succ, List.filter_append]
  simp [underWay, Incident.ends, fresh]

theorem underWay_ends (ends : e = .finish call ∨ e = .drop call) :
    underWay (e :: past) = (underWay past).erase call := by
  rw [(nodup_underWay past).erase_eq_filter, underWay, underWay, List.filter_filter]
  rcases ends with rfl | rfl <;>
    exact List.filter_congr fun c _ => by simp [Incident.ends, bne, Bool.beq_comm (a := c)]

theorem underWay_resolve (call : Nat) (result : Except String α) :
    underWay (.resolve call result :: past) = underWay past := rfl

/-- With its end there is one call less under way, and there was one. -/
theorem length_underWay_ends (ends : e = .finish call ∨ e = .drop call)
    (running : call ∈ underWay past) :
    (underWay (e :: past)).length + 1 = (underWay past).length := by
  rw [underWay_ends ends, List.length_erase_of_mem running]
  exact Nat.sub_add_cancel (List.length_pos_of_mem running)

/-! ### Scripts -/

/-- A script as it is played: the turns to come, and the one that came last. -/
structure Script (α : Type) where
  left : List (Turn α)
  last : Option (Turn α) := none

namespace Script

/-- The next turn is taken off the script. Where none is left, the last one comes again. -/
def next (s : Script α) : Turn α × Script α :=
  match s.left with
  | t :: left => (t, { left, last := some t })
  | [] => (s.last.getD { answer := .err exhausted }, s)

/-- The script once it was played for every call that began. -/
def after (turns : List (Turn α)) : List (Incident α) → Script α
  | [] => { left := turns }
  | .begin :: past => (after turns past).next.2
  | _ :: past => after turns past

variable (turns : List (Turn α))

theorem next_drop (n : Nat) :
    next { left := turns.drop n, last := (turns.take n).getLast? } =
      (Producer.turnOf turns n,
        { left := turns.drop (n + 1), last := (turns.take (n + 1)).getLast? }) := by
  by_cases within : n < turns.length
  · have place : min n (turns.length - 1) = n := by omega
    have last : (turns.take (n + 1)).getLast? = some turns[n] := by
      rw [List.take_add_one, List.getElem?_eq_getElem within, Option.toList_some,
        List.getLast?_concat]
    rw [List.drop_eq_getElem_cons within, last, Producer.turnOf, place]
    simp [next, within]
  · have place : min n (turns.length - 1) = turns.length - 1 := by omega
    rw [List.drop_eq_nil_of_le (by omega), List.drop_eq_nil_of_le (by omega), Producer.turnOf, place,
      List.take_of_length_le (by omega), List.take_of_length_le (by omega)]
    simp [next, List.getLast?_eq_getElem?]

theorem after_eq (past : List (Incident α)) :
    after turns past =
      { left := turns.drop (begun past), last := (turns.take (begun past)).getLast? } := by
  induction past with
  | nil => rfl
  | cons e past ih =>
    cases e with
    | begin => rw [after, ih, next_drop, begun]
    | finish | drop | resolve => exact ih

/-- A script that is played turn by turn gives each call its turn. -/
theorem next_after (past : List (Incident α)) :
    (after turns past).next.1 = Producer.turnOf turns (begun past) := by
  rw [after_eq, next_drop]

end Script

/-- The turn of a script that is not empty is one of its turns. -/
theorem getElem?_turnOf {turns : List (Turn α)} (nonempty : turns ≠ []) (n : Nat) :
    turns[min n (turns.length - 1)]? = some (Producer.turnOf turns n) := by
  have positive : 0 < turns.length := List.length_pos_iff.mpr nonempty
  have within : min n (turns.length - 1) < turns.length := by omega
  rw [Producer.turnOf, List.getD_eq_getElem?_getD, List.getElem?_eq_getElem within, Option.getD_some]

/-! ### Producers -/

namespace Producer

/-- The producer once something has happened. -/
def meets (p : Producer α) : Incident α → Producer α
  | .begin => p.call.1
  | .finish call | .drop call => p.finish call
  | .resolve call result => (p.resolve call result).1

/-- The producer once all of this has happened. -/
def after (p : Producer α) : List (Incident α) → Producer α
  | [] => p
  | e :: past => (p.after past).meets e

/-- How often somebody who wanted to answer the call at its gate was told that it is answered. -/
def accepted (p : Producer α) (call : Nat) : List (Incident α) → Nat
  | [] => 0
  | .resolve c result :: past =>
    p.accepted call past + if c = call ∧ ((p.after past).resolve c result).2 = true then 1 else 0
  | _ :: past => p.accepted call past

variable {p : Producer α}

/-! ### What an incident does -/

theorem probe_call (p : Producer α) : p.call.1.probe = p.probe.enter := by
  unfold Producer.call
  cases p.supply <;> rfl

theorem probe_resolve (p : Producer α) (call : Nat) (result : Except String α) :
    (p.resolve call result).1.probe = p.probe := by
  unfold Producer.resolve
  split <;> rfl

theorem supply_meets (p : Producer α) (e : Incident α) : (p.meets e).supply = p.supply := by
  cases e with
  | begin =>
    show p.call.1.supply = p.supply
    unfold Producer.call
    cases p.supply <;> rfl
  | finish call | drop call => rfl
  | resolve call result =>
    show (p.resolve call result).1.supply = p.supply
    unfold Producer.resolve
    split <;> rfl

/-- A call can be answered at its gate as long as it waits there. -/
theorem resolve_iff (p : Producer α) (call : Nat) (result : Except String α) :
    (p.resolve call result).2 = true ↔ p.gates[call]? = some .waiting := by
  unfold Producer.resolve
  split
  · rename_i waiting
    exact iff_of_true rfl waiting
  · rename_i other
    exact iff_of_false Bool.false_ne_true other

theorem gates_resolve (p : Producer α) (call : Nat) (result : Except String α) :
    (p.resolve call result).1.gates =
      if (p.resolve call result).2 = true then p.gates.set call (.told result) else p.gates := by
  unfold Producer.resolve
  split <;> rfl

/-! ### The counts -/

theorem supply_after (p : Producer α) (past : List (Incident α)) : (p.after past).supply = p.supply := by
  induction past with
  | nil => rfl
  | cons e past ih => rw [after, supply_meets, ih]

theorem accepted_resolve (p : Producer α) (c call : Nat) (result : Except String α) :
    p.accepted call (.resolve c result :: past) = p.accepted call past +
      if c = call ∧ ((p.after past).resolve c result).2 = true then 1 else 0 := rfl

theorem calls_after (fresh : p.probe = {}) (past : List (Incident α)) :
    (p.after past).probe.calls = begun past := by
  induction past with
  | nil => rw [after, fresh, begun]
  | cons e past ih =>
    cases e with
    | begin =>
      show (p.after past).call.1.probe.calls = begun past + 1
      rw [probe_call, ← ih, Probe.enter]
    | finish | drop => exact ih
    | resolve call result =>
      show ((p.after past).resolve call result).1.probe.calls = begun past
      rw [probe_resolve, ih]

theorem running_after (fresh : p.probe = {}) (lawful : Lawful past) :
    (p.after past).probe.running = (underWay past).length := by
  induction lawful with
  | nothing =>
    rw [after, fresh]
    rfl
  | @begin past lawful ih =>
    show (p.after past).call.1.probe.running = _
    rw [probe_call, lawful.underWay_begin, List.length_append, ← ih]
    rfl
  | @finish past _ call running ih =>
    have fewer := length_underWay_ends (.inl rfl) running
    show (p.after past).probe.running - 1 = _
    omega
  | @drop past _ call running ih =>
    have fewer := length_underWay_ends (.inr rfl) running
    show (p.after past).probe.running - 1 = _
    omega
  | @resolve past _ call result ih =>
    show ((p.after past).resolve call result).1.probe.running = _
    rw [probe_resolve, ih, underWay_resolve]

/-- How many calls there ever were at once. -/
def everRunning (p : Producer α) (past : List (Incident α)) : Set Nat :=
  { n | ∃ earlier, earlier <:+ past ∧ (p.after earlier).probe.running = n }

theorem everRunning_cons (p : Producer α) (e : Incident α) (past : List (Incident α)) :
    p.everRunning (e :: past) = insert (p.after (e :: past)).probe.running (p.everRunning past) := by
  ext n
  constructor
  · rintro ⟨earlier, suffix, rfl⟩
    rcases List.suffix_cons_iff.mp suffix with rfl | before
    · exact .inl rfl
    · exact .inr ⟨earlier, before, rfl⟩
  · rintro (rfl | ⟨earlier, before, rfl⟩)
    · exact ⟨_, List.suffix_refl _, rfl⟩
    · exact ⟨earlier, before.trans (List.suffix_cons e past), rfl⟩

theorem most_after (fresh : p.probe = {}) (past : List (Incident α)) :
    IsGreatest (p.everRunning past) (p.after past).probe.most := by
  induction past with
  | nil =>
    rw [after, fresh]
    refine ⟨⟨[], List.suffix_refl _, by rw [after, fresh]⟩, ?_⟩
    rintro n ⟨earlier, suffix, rfl⟩
    rw [List.suffix_nil.mp suffix, after, fresh]
  | cons e past ih =>
    have before : (p.after past).probe.running ≤ (p.after past).probe.most :=
      ih.2 ⟨past, List.suffix_refl _, rfl⟩
    have most : (p.after (e :: past)).probe.most =
        max (p.after (e :: past)).probe.running (p.after past).probe.most := by
      cases e with
      | begin =>
        show (p.after past).call.1.probe.most = max (p.after past).call.1.probe.running _
        rw [probe_call, Probe.enter, Nat.max_comm]
      | finish call | drop call =>
        show (p.after past).probe.most = max ((p.after past).probe.running - 1) _
        omega
      | resolve call result =>
        show ((p.after past).resolve call result).1.probe.most =
          max ((p.after past).resolve call result).1.probe.running _
        rw [probe_resolve]
        omega
    rw [everRunning_cons, most]
    exact ih.insert _

/-! ### The gates -/

/-- A call waits at its gate just as long as it is under way and was not answered there, and only a call
    that began is answered. -/
structure Gated (p : Producer α) (past : List (Incident α)) : Prop where
  length : (p.after past).gates.length = begun past
  waiting : ∀ call, (p.after past).gates[call]? = some .waiting ↔
    call ∈ underWay past ∧ p.accepted call past = 0
  began : ∀ call, p.accepted call past ≠ 0 → call < begun past

namespace Gated

/-- A call that begins comes to wait at a gate of its own. -/
theorem begin (h : p.Gated past) (gated : p.supply = .gated) (lawful : Lawful past) :
    p.Gated (.begin :: past) := by
  have gates : (p.after (.begin :: past)).gates = (p.after past).gates ++ [.waiting] := by
    show (p.after past).call.1.gates = _
    rw [Producer.call, supply_after, gated]
  have fresh : p.accepted (begun past) past = 0 :=
    by_contra fun told => Nat.lt_irrefl _ (h.began _ told)
  refine ⟨?_, fun call => ?_, fun call told => Nat.lt_succ_of_lt (h.began call told)⟩
  · rw [gates, List.length_append, h.length]
    rfl
  · rw [gates, lawful.underWay_begin, List.mem_append, List.mem_singleton]
    show _ ↔ _ ∧ p.accepted call past = 0
    rcases Nat.lt_trichotomy call (begun past) with old | rfl | beyond
    · rw [List.getElem?_append_left (h.length ▸ old), h.waiting]
      simp [Nat.ne_of_lt old]
    · rw [← h.length, List.getElem?_concat_length, h.length]
      simp [fresh]
    · have outside : call ∉ underWay past := fun inside =>
        Nat.lt_asymm beyond (mem_underWay.mp inside).1
      rw [List.getElem?_eq_none (by rw [List.length_append, h.length]; exact beyond)]
      simp [outside, Nat.ne_of_gt beyond]

/-- The gate of a call that ends is never used again. -/
theorem ends (h : p.Gated past) {c : Nat} (ends : e = .finish c ∨ e = .drop c) :
    p.Gated (e :: past) := by
  have gates : (p.after (e :: past)).gates = (p.after past).gates.set c .spent := by
    rcases ends with rfl | rfl <;> rfl
  have begun : begun (e :: past) = begun past := by rcases ends with rfl | rfl <;> rfl
  have accepted (call : Nat) : p.accepted call (e :: past) = p.accepted call past := by
    rcases ends with rfl | rfl <;> rfl
  refine ⟨?_, fun call => ?_, fun call told => ?_⟩
  · rw [gates, List.length_set, h.length, begun]
  · rw [gates, accepted, underWay_ends ends, (nodup_underWay past).mem_erase_iff]
    by_cases own : c = call
    · subst own
      rw [List.getElem?_set_self']
      simp
    · rw [List.getElem?_set_ne own, h.waiting]
      simp [Ne.symm own]
  · rw [begun]
    exact h.began call (accepted call ▸ told)

/-- A call that is answered at its gate waits there no longer. -/
theorem resolve (h : p.Gated past) (c : Nat) (result : Except String α) :
    p.Gated (.resolve c result :: past) := by
  have gates : (p.after (.resolve c result :: past)).gates = _ := gates_resolve (p.after past) c result
  by_cases told : ((p.after past).resolve c result).2 = true
  · have waits := (h.waiting c).mp ((resolve_iff _ c result).mp told)
    rw [if_pos told] at gates
    refine ⟨?_, fun call => ?_, fun call => ?_⟩
    · rw [gates, List.length_set, h.length]
      rfl
    · rw [gates, accepted_resolve, underWay_resolve]
      by_cases own : c = call
      · subst own
        simp [List.getElem?_set_self', told]
      · rw [List.getElem?_set_ne own, h.waiting]
        simp [own]
    · show _ → call < begun past
      rw [accepted_resolve]
      by_cases own : c = call
      · subst own
        exact fun _ => (mem_underWay.mp waits.1).1
      · simpa [own] using h.began call
  · rw [if_neg told] at gates
    refine ⟨?_, fun call => ?_, fun call => ?_⟩
    · rw [gates, h.length]
      rfl
    · rw [gates, accepted_resolve, underWay_resolve, h.waiting]
      simp [told]
    · show _ → call < begun past
      rw [accepted_resolve]
      simpa [told] using h.began call

/-- Nobody is told twice that a call is answered. -/
theorem accepted_le (h : p.Gated past) {c : Nat} {result : Except String α} (call : Nat)
    (once : p.accepted call past ≤ 1) : p.accepted call (.resolve c result :: past) ≤ 1 := by
  rw [accepted_resolve]
  split
  · rename_i told
    obtain ⟨rfl, told⟩ := told
    rw [((h.waiting c).mp ((resolve_iff _ c result).mp told)).2]
  · exact once

end Gated

theorem gated_after (gated : p.supply = .gated) (none : p.gates = []) (lawful : Lawful past) :
    p.Gated past := by
  induction lawful with
  | nothing => exact ⟨by rw [after, none]; rfl, by simp [after, none, underWay, begun], by simp [accepted]⟩
  | begin lawful ih => exact ih.begin gated lawful
  | finish _ _ ih => exact ih.ends (.inl rfl)
  | drop _ _ ih => exact ih.ends (.inr rfl)
  | resolve _ call result ih => exact ih.resolve call result

/-- Calls of a producer that follows a script have no gates. -/
theorem gates_script {turns : List (Turn α)} (script : p.supply = .script turns) (none : p.gates = [])
    (past : List (Incident α)) : (p.after past).gates = [] := by
  induction past with
  | nil => exact none
  | cons e past ih =>
    cases e with
    | begin =>
      show (p.after past).call.1.gates = []
      rw [Producer.call, supply_after, script]
      exact ih
    | finish call | drop call =>
      show (p.after past).gates.set call .spent = []
      rw [ih, List.set_nil]
    | resolve call result =>
      show ((p.after past).resolve call result).1.gates = []
      rw [gates_resolve, ih, List.set_nil, ite_self]

theorem accepted_le_one (none : p.gates = []) (lawful : Lawful past) (call : Nat) :
    p.accepted call past ≤ 1 := by
  induction lawful with
  | nothing => exact Nat.zero_le _
  | begin _ ih | finish _ _ ih | drop _ _ ih => exact ih
  | @resolve past lawful c result ih =>
    cases supply : p.supply with
    | gated => exact (gated_after supply none lawful).accepted_le call ih
    | script turns =>
      have refused : ¬ ((p.after past).resolve c result).2 = true := by
        rw [resolve_iff, gates_script supply none]
        exact fun waits => nomatch waits
      rw [accepted_resolve, if_neg fun told => refused told.2]
      exact ih

end Producer

theorem Lawful.of_append : ∀ {later : List (Incident α)}, Lawful (later ++ past) → Lawful past
  | [], lawful => lawful
  | _ :: _, .begin lawful | _ :: _, .finish lawful _ | _ :: _, .drop lawful _
  | _ :: _, .resolve lawful _ _ => lawful.of_append

/-- Whoever ends was under way. -/
theorem Lawful.running (lawful : Lawful (e :: past)) (ends : e.ends call = true) :
    call ∈ underWay past := by
  cases lawful with
  | begin => exact nomatch ends
  | resolve => exact nomatch ends
  | finish _ running | drop _ running =>
    obtain rfl := beq_iff_eq.mp ends
    exact running

/-- In any order in which calls begin and end, the probe of a producer tells how many began, how many of
    them neither finished nor were dropped, and the most there ever were of these at once; and there is one
    to be taken off whenever a call ends. A producer with a script that is not empty answers its calls turn
    by turn and then with the last turn again and again, as when the script is played, whatever became of
    other calls. A gated call can be answered as long as it is under way and was not answered, and of all
    who want to answer it no more than one is told that it is. -/
theorem probe_tells_truth (supply : Supply α) {past : List (Incident α)} (lawful : Lawful past) :
    let fresh : Producer α := { supply }
    let p := fresh.after past
    p.probe.calls = begun past ∧
      p.probe.running = (underWay past).length ∧
      IsGreatest { n | ∃ earlier, earlier <:+ past ∧ (fresh.after earlier).probe.running = n }
        p.probe.most ∧
      (∀ later e earlier call, past = later ++ e :: earlier → e.ends call = true →
        0 < (fresh.after earlier).probe.running) ∧
      (∀ turns, supply = .script turns → turns ≠ [] →
        ∃ turn, turns[min (begun past) (turns.length - 1)]? = some turn ∧
          (Script.after turns past).next.1 = turn ∧
          p.call.2 = (begun past, some turn.delay) ∧
          ∀ later, (fresh.after (later ++ .begin :: past)).reply (begun past) = turn.answer.result) ∧
      (supply = .gated → p.gates.length = begun past ∧ p.call.2 = (begun past, none) ∧
        ∀ call result, (p.resolve call result).2 = true ↔
          call ∈ underWay past ∧ fresh.accepted call past = 0) ∧
      ∀ call, fresh.accepted call past ≤ 1 := by
  intro fresh p
  have calls : p.probe.calls = begun past := Producer.calls_after rfl past
  have supplied : p.supply = supply := Producer.supply_after fresh past
  refine ⟨calls, Producer.running_after rfl lawful, Producer.most_after rfl past, ?_, ?_, ?_,
    Producer.accepted_le_one rfl lawful⟩
  · rintro later e earlier call rfl ends
    have before : Lawful ([e] ++ earlier) := lawful.of_append
    have running : call ∈ underWay earlier := before.running ends
    rw [Producer.running_after rfl before.of_append]
    exact List.length_pos_of_mem running
  · intro turns script nonempty
    refine ⟨Producer.turnOf turns (begun past), getElem?_turnOf nonempty _, Script.next_after turns past,
      ?_, fun later => ?_⟩
    · rw [Producer.call, supplied, script, calls]
    · rw [Producer.reply, Producer.supply_after, show fresh.supply = .script turns from script]
  · intro gated
    have gates : fresh.Gated past := Producer.gated_after gated rfl lawful
    refine ⟨gates.length, ?_, fun call result => ?_⟩
    · rw [Producer.call, supplied, gated, calls]
    · rw [Producer.resolve_iff]
      exact gates.waiting call

/-- Two calls overlap. The second one is answered, and nobody can answer it again. The first one is dropped,
    and nobody can answer it any more. A third call begins, and can be answered. As calls of a script with
    two turns, a fourth one has the last turn again. -/
theorem second_call_answered_first :
    let past : List (Incident Nat) := [.begin, .resolve 0 (.ok 7), .drop 0, .finish 1,
      .resolve 1 (.ok 9), .resolve 1 (.ok 8), .begin, .begin]
    let turns : List (Turn Nat) := [⟨.ok 1, 5⟩, ⟨.err "down", 0⟩]
    let gated : Producer Nat := { supply := .gated }
    let scripted : Producer Nat := { supply := .script turns }
    Lawful past ∧ turns ≠ [] ∧ (gated.after past).probe = ⟨3, 1, 2⟩ ∧ underWay past = [2] ∧
      IsGreatest { n | ∃ earlier, earlier <:+ past ∧ (gated.after earlier).probe.running = n } 2 ∧
      gated.accepted 1 past = 1 ∧ (∀ result, ((gated.after past).resolve 2 result).2 = true) ∧
      (scripted.after past).call.2 = (3, some 0) ∧
      (scripted.after (.finish 3 :: .begin :: past)).reply 3 = .error "down" := by
  intro past turns gated scripted
  have lawful : Lawful past :=
    .begin (.resolve (.drop (.finish (.resolve (.resolve (.begin (.begin .nothing)) _ _) _ _)
      (by decide)) (by decide)) _ _)
  obtain ⟨-, -, most, -, -, answers, -⟩ := probe_tells_truth (α := Nat) .gated lawful
  obtain ⟨-, -, -, -, plays, -⟩ := probe_tells_truth (.script turns) lawful
  obtain ⟨turn, place, -, begins, replies⟩ := plays turns rfl (List.cons_ne_nil _ _)
  obtain rfl : ⟨.err "down", 0⟩ = turn := Option.some.inj place
  obtain ⟨-, -, resolves⟩ := answers rfl
  exact ⟨lawful, List.cons_ne_nil _ _, by decide, by decide, most, by decide,
    fun result => (resolves 2 result).mpr (by decide), begins, replies [.finish 3]⟩

end TaskWatch.Bench
