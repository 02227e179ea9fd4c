import TaskWatch.Proofs.Bench.Passing
import TaskWatch.Proofs.Cache.SharedAgenda
import TaskWatch.Proofs.Cache.SharedUse

/-! Benches that two parties share.

    Let a bench be shared by two parties, and let each have a bench of its own at the same moment, where
    its producers stand as they do on the shared one. Every job that the shared bench runs is one that the
    bench of its party would run next. So the three come to rest together, and millisecond by millisecond
    they stay together as time passes. -/

namespace TaskWatch.Bench

open Cache

variable {α β : Type} {P : Parties} {T T₁ T₂ : Tie} {b b₁ b₂ : Bench α}

/-! ### Producers -/

theorem getElem?_call (i p : Nat) (ps : List (Producer α)) :
    (supplier.call i ps).1[p]? = if p = i then ps[p]?.map (fun q => q.call.1) else ps[p]? := by
  by_cases same : p = i
  · subst same
    cases there : ps[p]? with
    | none => simp [supplier, there]
    | some q =>
      obtain ⟨inside, rfl⟩ := List.getElem?_eq_some_iff.mp there
      simp [supplier, inside]
  · cases there : ps[i]? <;> simp [supplier, there, same, Ne.symm same]

theorem getElem?_finish (i call p : Nat) (ps : List (Producer α)) :
    (supplier.finish i call ps)[p]? = if p = i then ps[p]?.map (fun q => q.finish call) else ps[p]? := by
  by_cases same : p = i
  · subst same
    cases there : ps[p]? with
    | none => simp [supplier, there]
    | some q =>
      obtain ⟨inside, rfl⟩ := List.getElem?_eq_some_iff.mp there
      simp [supplier, inside]
  · cases there : ps[i]? <;> simp [supplier, there, same, Ne.symm same]

/-- A producer that stands alike on both benches answers alike. -/
theorem call_same {i : Nat} {ps ps₁ : List (Producer α)} (same : ps[i]? = ps₁[i]?) :
    (supplier.call i ps).2 = (supplier.call i ps₁).2 := by
  unfold supplier
  dsimp only
  rw [same]
  cases ps₁[i]? <;> rfl

theorem reply_same {i : Nat} {ps ps₁ : List (Producer α)} (same : ps[i]? = ps₁[i]?) (call : Nat) :
    supplier.reply i call ps = supplier.reply i call ps₁ := by
  unfold supplier
  dsimp only
  rw [same]

/-! ### Jobs -/

/-- The producers of the party stand alike on both benches. -/
def Agree (p : Party) (ps ps₁ : List (Producer α)) : Prop :=
  ∀ i, p.producers i → ps[i]? = ps₁[i]?

theorem Agree.symm {p : Party} {ps ps₁ : List (Producer α)} (h : Agree p ps ps₁) : Agree p ps₁ ps :=
  fun i own => (h i own).symm

theorem Agree.call {p : Party} {ps ps₁ : List (Producer α)} (h : Agree p ps ps₁) (i : Nat) :
    Agree p (supplier.call i ps).1 (supplier.call i ps₁).1 := fun q own => by
  rw [getElem?_call, getElem?_call, h q own]

theorem Agree.finish {p : Party} {ps ps₁ : List (Producer α)} (h : Agree p ps ps₁) (i call : Nat) :
    Agree p (supplier.finish i call ps) (supplier.finish i call ps₁) := fun q own => by
  rw [getElem?_finish, getElem?_finish, h q own]

/-- The call of a producer of others is not noticed. -/
theorem Agree.call_alien {p : Party} {ps ps₁ : List (Producer α)} (h : Agree p ps ps₁) {i : Nat}
    (alien : ¬ p.producers i) : Agree p (supplier.call i ps).1 ps₁ := fun q own => by
  rw [getElem?_call, if_neg (by rintro rfl; exact alien own), h q own]

theorem Agree.finish_alien {p : Party} {ps ps₁ : List (Producer α)} (h : Agree p ps ps₁) {i : Nat}
    (alien : ¬ p.producers i) (call : Nat) : Agree p (supplier.finish i call ps) ps₁ :=
  fun q own => by rw [getElem?_finish, if_neg (by rintro rfl; exact alien own), h q own]

theorem Agree.set {p : Party} {ps ps₁ : List (Producer α)} (h : Agree p ps ps₁) (i : Nat)
    (q : Producer α) : Agree p (ps.set i q) (ps₁.set i q) := fun l own => by
  rw [List.getElem?_set', List.getElem?_set', h l own]

theorem Agree.set_alien {p : Party} {ps ps₁ : List (Producer α)} (h : Agree p ps ps₁) {i : Nat}
    (alien : ¬ p.producers i) (q : Producer α) : Agree p (ps.set i q) ps₁ := fun l own => by
  rw [List.getElem?_set_ne (by rintro rfl; exact alien own), h l own]

/-- The job as it waits for the answer to a call. -/
def awaiting (g i call : Nat) (due : Option Nat) (j : Job) : Job :=
  { j with duty := .reply g i call, due }

theorem placeCall_eq (c : Cache α) (now : Time.Instant) (j : Job) (g i : Nat)
    (ps : List (Producer α)) : (c.placeCall supplier now j g i ps).1 =
      { c with agenda := c.agenda.change j.number (awaiting g i (supplier.call i ps).2.1
        ((supplier.call i ps).2.2.map fun d => now.elapsed + d)) } :=
  rfl

/-- A fetch of the first party waits for the answer to a call. -/
theorem waiting_shared {c c₁ c₂ : Cache α} (h : Cache.Shared P T₁ T₂ c c₁ c₂) {j j₁ : Job}
    (like : j.Like P.first T₁ j₁) {g g₁ i : Nat} (tied : T₁.number g g₁)
    (own : P.first.producers i) (call : Nat) (due : Option Nat) :
    Cache.Shared P T₁ T₂
      { c with agenda := c.agenda.change j.number (awaiting g i call due) }
      { c₁ with agenda := c₁.agenda.change j₁.number (awaiting g₁ i call due) } c₂ := by
  have agenda := h.agenda.map (k := id) (U := Job.Like P.first T₁) (V := Job.Like P.second T₂)
    (f := fun l => if l.number = j.number then awaiting g i call due l else l)
    (g := fun l => if l.number = j₁.number then awaiting g₁ i call due l else l)
    (fun l l₁ alike => ?_) (fun l l₂ alike => ?_)
  · rw [List.map_id] at agenda
    exact { h with agenda }
  · have test := h.jobs.same₁ _ _ _ _ alike.number like.number
    by_cases this : l.number = j.number
    · rw [if_pos this, if_pos (test.mp this)]
      exact ⟨alike.number, alike.key, .reply _ tied own, rfl, nofun⟩
    · rw [if_neg this, if_neg (mt test.mpr this)]
      exact alike
  · have other : ¬ l.number = j.number := fun this =>
      h.jobs.apart _ _ _ like.number (this ▸ alike.number)
    dsimp only [id]
    rw [if_neg other]
    exact alike

/-- A job of the first party is run alike in both caches, and the producers of the second are left
    alone. -/
theorem runJob_shared {c c₁ c₂ : Cache α} (h : Cache.Shared P T₁ T₂ c c₁ c₂)
    {ps ps₁ : List (Producer α)} (agree : Agree P.first ps ps₁) (now : Time.Instant) (t : Nat)
    {j j₁ : Job} (like : j.Like P.first T₁ j₁) :
    ∃ T, T₁.Within T ∧
      Cache.Shared P T T₂ (c.runJob supplier now j ps).1
        (c₁.runJob supplier (now.onTurn t) j₁ ps₁).1 c₂ ∧
      Agree P.first (c.runJob supplier now j ps).2
        (c₁.runJob supplier (now.onTurn t) j₁ ps₁).2 ∧
      ∀ {ps₂ : List (Producer α)}, Agree P.second ps ps₂ →
        Agree P.second (c.runJob supplier now j ps).2 ps₂ := by
  have without := h.without like
  have alike := like
  obtain ⟨number, key, duty, due, turn⟩ := j
  obtain ⟨number₁, key₁, duty₁, due₁, turn₁⟩ := j₁
  obtain ⟨-, same, duties, -, own⟩ := like
  obtain rfl : key = key₁ := same
  unfold runJob
  cases duties with
  | @call g g₁ i tied mine =>
    refine ⟨T₁, .refl T₁, ?_, agree.call i, fun others => others.call_alien (P.producers i mine)⟩
    dsimp only
    rw [placeCall_eq, placeCall_eq, call_same (agree i mine)]
    exact waiting_shared h alike tied mine _ _
  | @reply g g₁ i call tied mine =>
    refine ⟨T₁, .refl T₁, ?_, agree.finish i call,
      fun others => others.finish_alien (P.producers i mine) call⟩
    dsimp only
    rw [reply_same (agree i mine)]
    exact without.settle tied _ _
  | @release i call mine =>
    exact ⟨T₁, .refl T₁, without, agree.finish i call,
      fun others => others.finish_alien (P.producers i mine) call⟩
  | poll period =>
    obtain ⟨T, le, ticked⟩ := h.tick now t alike rfl period
    exact ⟨T, le, ticked, agree, id⟩
  | collect tied =>
    exact ⟨T₁, .refl T₁, without.collect (own rfl) tied, agree, id⟩

/-! ### Answers from outside -/

theorem waitsFor_like {p : Party} {j j₁ : Job} (like : j.Like p T j₁) (i call : Nat) :
    waitsFor i call j = waitsFor i call j₁ := by
  obtain ⟨number, key, duty, due, turn⟩ := j
  obtain ⟨number₁, key₁, duty₁, due₁, turn₁⟩ := j₁
  obtain ⟨-, -, duties, -, -⟩ := like
  cases duties <;> rfl

/-- The party waits for calls of its own producers only. -/
theorem waitsFor_alien {p : Party} {j j₁ : Job} (like : j.Like p T j₁) {i : Nat}
    (alien : ¬ p.producers i) (call : Nat) : waitsFor i call j = false := by
  obtain ⟨number, key, duty, due, turn⟩ := j
  obtain ⟨number₁, key₁, duty₁, due₁, turn₁⟩ := j₁
  obtain ⟨-, -, duties, -, -⟩ := like
  cases duties with
  | @reply _ _ q call' tied own =>
    have other : (q == i) = false := beq_eq_false_iff_ne.mpr (by rintro rfl; exact alien own)
    show (q == i && call' == call) = false
    rw [other, Bool.false_and]
  | _ => rfl

theorem answered_none {agenda : Agenda} {waits : Job → Bool} (now : Time.Instant)
    (none : ∀ j ∈ agenda, waits j = false) : Agenda.answered now waits agenda = agenda := by
  have ready : agenda.filter waits = [] := List.filter_eq_nil_iff.mpr fun j listed => by
    rw [none j listed]
    exact Bool.false_ne_true
  have staying : agenda.filter (fun j => !waits j) = agenda :=
    List.filter_eq_self.mpr fun j listed => by rw [none j listed]; rfl
  rw [Agenda.answered, ready, staying, List.map_nil, List.append_nil]

/-- If nobody waits for the answer to a call, to give it changes the producer at most. -/
theorem resolve_nobody {i call : Nat} (nobody : ∀ j ∈ b.cache.agenda, waitsFor i call j = false)
    (r : Except String α) : (b.resolve i call r).1 = b ∨
      ∃ q, (b.resolve i call r).1 = (b.setProducer i q).withCache b.cache := by
  have still := answered_none b.instant nobody
  unfold Bench.resolve
  cases there : b.producers[i]? with
  | none => exact .inl rfl
  | some p =>
    dsimp only
    cases done : (p.resolve call r).2 with
    | false => exact .inl rfl
    | true =>
      refine .inr ⟨(p.resolve call r).1, ?_⟩
      show (b.setProducer i _).withCache
        { b.cache with agenda := Agenda.answered b.instant (waitsFor i call) b.cache.agenda } = _
      rw [still]

theorem answered_shared {c c₁ c₂ : Cache α} (h : Cache.Shared P T₁ T₂ c c₁ c₂) (now : Time.Instant)
    (t : Nat) {i : Nat} (own : P.first.producers i) (call : Nat) :
    Cache.Shared P T₁ T₂ { c with agenda := Agenda.answered now (waitsFor i call) c.agenda }
      { c₁ with agenda := Agenda.answered (now.onTurn t) (waitsFor i call) c₁.agenda } c₂ := by
  have alien (j j₂ : Job) (like : j.Like P.second T₂ j₂) : waitsFor i call j = false :=
    waitsFor_alien like (P.producers i own) call
  have staying := h.agenda.filter_left (p := fun j => !waitsFor i call j)
    (q := fun j => !waitsFor i call j) (fun j j₁ like => by rw [waitsFor_like like])
    fun j j₂ like => by rw [alien j j₂ like]; rfl
  have waiting := h.agenda.filter (p := waitsFor i call) (q := waitsFor i call)
    (r := fun _ => false) (fun j j₁ like => waitsFor_like like i call) alien
  rw [List.filter_eq_nil_iff.mpr fun _ _ => Bool.false_ne_true, Shuffle.nil_right_iff] at waiting
  have ready : List.Forall₂ (Job.Like P.first T₁)
      ((c.agenda.filter (waitsFor i call)).map fun j =>
        { j with due := some now.elapsed, turn := now.turn })
      ((c₁.agenda.filter (waitsFor i call)).map fun j =>
        { j with due := some now.elapsed, turn := t }) :=
    List.forall₂_map_left_iff.mpr (List.forall₂_map_right_iff.mpr
      (waiting.imp fun j j₁ like => { like with due := rfl }))
  have agenda := staying.append (Shuffle.nil_right_iff.mpr ready)
  rw [List.append_nil] at agenda
  exact { h with agenda }

/-! ### Benches -/

/-- The first bench serves both parties as the second would the first and the third the second. -/
structure Shared (P : Parties) (T₁ T₂ : Tie) (b b₁ b₂ : Bench α) : Prop where
  now : b.now = b₁.now ∧ b.now = b₂.now
  origin : b.origin = b₁.origin ∧ b.origin = b₂.origin
  cache : Cache.Shared P T₁ T₂ b.cache b₁.cache b₂.cache
  first : Agree P.first b.producers b₁.producers
  second : Agree P.second b.producers b₂.producers
  followed : b.Followed
  followed₁ : b₁.Followed
  followed₂ : b₂.Followed

/-- So it does, with perhaps more numbers given out. -/
def Shares (P : Parties) (T₁ T₂ : Tie) (b b₁ b₂ : Bench α) : Prop :=
  ∃ T₁' T₂', T₁.Within T₁' ∧ T₂.Within T₂' ∧ Shared P T₁' T₂' b b₁ b₂

/-- What follows with the numbers given out so far follows. -/
theorem Shares.next {d d₁ d₂ : Bench α} (h : Shares P T₁ T₂ b b₁ b₂)
    (next : ∀ {T₁ T₂}, Shared P T₁ T₂ b b₁ b₂ → Shares P T₁ T₂ d d₁ d₂) :
    Shares P T₁ T₂ d d₁ d₂ := by
  obtain ⟨T₁', T₂', le₁, le₂, shared⟩ := h
  obtain ⟨T₁'', T₂'', le₁', le₂', shared'⟩ := next shared
  exact ⟨T₁'', T₂'', le₁.trans le₁', le₂.trans le₂', shared'⟩

namespace Shared

theorem shares (h : Shared P T₁ T₂ b b₁ b₂) : Shares P T₁ T₂ b b₁ b₂ :=
  ⟨T₁, T₂, .refl T₁, .refl T₂, h⟩

theorem swap (h : Shared P T₁ T₂ b b₁ b₂) : Shared P.swap T₂ T₁ b b₂ b₁ :=
  ⟨h.now.symm, h.origin.symm, h.cache.swap, h.second, h.first, h.followed, h.followed₂, h.followed₁⟩

/-- Both benches show the same moment. -/
theorem instant (h : Shared P T₁ T₂ b b₁ b₂) : b₁.instant = b.instant.onTurn b₁.turn := by
  rw [Bench.instant, Bench.instant, ← h.now.1, ← h.origin.1]
  rfl

/-- A job of the first party is run on both benches. -/
theorem run (h : Shared P T₁ T₂ b b₁ b₂) {j j₁ : Job} (like : j.Like P.first T₁ j₁)
    (listed : j ∈ b.cache.agenda) (due : j.isDue b.now = true) (listed₁ : j₁ ∈ b₁.cache.agenda) :
    ∃ T, T₁.Within T ∧ Shared P T T₂ (b.run j) (b₁.run j₁) b₂ := by
  obtain ⟨T, le, cache, first, second⟩ :=
    runJob_shared h.cache h.first b.instant b₁.turn like
  have due₁ : j₁.isDue b₁.now = true := by rwa [← like.isDue, ← h.now.1]
  have followed₁ := (h.followed₁.run listed₁ due₁).1
  unfold Bench.run at followed₁ ⊢
  rw [h.instant] at followed₁ ⊢
  exact ⟨T, le, h.now, h.origin, { cache with }, first, second h.second,
    (h.followed.run listed due).1, followed₁, h.followed₂⟩

/-- What is at rest for both parties is at rest for each. -/
theorem idle (h : Shared P T₁ T₂ b b₁ b₂) (idle : b.Idle) : b₁.Idle := by
  intro j₁ listed
  obtain ⟨j, listed, like⟩ := h.cache.agenda.mem_left listed
  rw [← like.isDue, ← h.now.1]
  exact idle j listed

end Shared

theorem jump_eq (b : Bench α) (ms : Nat) : b.jump ms = Time.Passing.settle (b.now + ms) b.rest := rfl

namespace Shared

/-- With nothing due on the shared bench, nothing is due on that of the first party. -/
theorem asleep (h : Shared P T₁ T₂ b b₁ b₂) (calm : b.cache.agenda.next? b.now = none) :
    b₁.cache.agenda.next? b₁.now = none := by
  have best := best_next? h.cache.agenda b.now
  rw [calm] at best
  rw [← h.now.1]
  generalize b₁.cache.agenda.next? b.now = j₁, b₂.cache.agenda.next? b.now = j₂ at best
  cases best
  rfl

/-- The job that is run next is the next of one party, and is run on its bench as well. -/
theorem run_next (h : Shared P T₁ T₂ b b₁ b₂) {j : Job}
    (next : b.cache.agenda.next? b.now = some j) :
    (∃ j₁ T, b₁.cache.agenda.next? b₁.now = some j₁ ∧ T₁.Within T ∧
      Shared P T T₂ (b.run j) (b₁.run j₁) b₂) ∨
    ∃ j₂ T, b₂.cache.agenda.next? b₂.now = some j₂ ∧ T₂.Within T ∧
      Shared P T₁ T (b.run j) b₁ (b₂.run j₂) := by
  obtain ⟨listed, due⟩ := Agenda.next?_due next
  have best := best_next? h.cache.agenda b.now
  rw [next] at best
  rw [← h.now.1, ← h.now.2]
  generalize next₁ : b₁.cache.agenda.next? b.now = j₁, next₂ : b₂.cache.agenda.next? b.now = j₂ at best
  cases best with
  | first like _ =>
    obtain ⟨T, le, ran⟩ := h.run like listed due (Agenda.next?_due next₁).1
    exact .inl ⟨_, T, rfl, le, ran⟩
  | second like _ =>
    obtain ⟨T, le, ran⟩ := h.swap.run like listed due (Agenda.next?_due next₂).1
    exact .inr ⟨_, T, rfl, le, ran.swap⟩

/-- The three come to rest together. -/
theorem rest (h : Shared P T₁ T₂ b b₁ b₂) : Shares P T₁ T₂ b.rest b₁.rest b₂.rest := by
  -- each job that is run leaves less work on the shared bench, of whichever party it is
  generalize size : b.cache.agenda.work b.now = n
  induction n using Nat.strongRecOn generalizing T₁ T₂ b b₁ b₂ with
  | ind n ih =>
    subst size
    cases next : b.cache.agenda.next? b.now with
    | none =>
      rw [rest_of_none next, rest_of_none (h.asleep next), rest_of_none (h.swap.asleep next)]
      exact h.shares
    | some j =>
      obtain ⟨listed, due⟩ := Agenda.next?_due next
      have less := (h.followed.run listed due).2
      rw [h.followed.rest_next next]
      rcases h.run_next next with ⟨j₁, T, next₁, le, ran⟩ | ⟨j₂, T, next₂, le, ran⟩
      · obtain ⟨T₁', T₂', le₁, le₂, shared⟩ := ih _ less ran rfl
        rw [h.followed₁.rest_next next₁]
        exact ⟨T₁', T₂', le.trans le₁, le₂, shared⟩
      · obtain ⟨T₁', T₂', le₁, le₂, shared⟩ := ih _ less ran rfl
        rw [h.followed₂.rest_next next₂]
        exact ⟨T₁', T₂', le₁, le.trans le₂, shared⟩

/-! ### Time -/

/-- Once nothing is due, the three clocks move on. -/
theorem clock (h : Shared P T₁ T₂ b b₁ b₂) (idle : b.Idle) {now : Nat} (later : b.now ≤ now) :
    Shared P T₁ T₂ { b with now } { b₁ with now } { b₂ with now } where
  now := ⟨rfl, rfl⟩
  origin := h.origin
  cache := h.cache
  first := h.first
  second := h.second
  followed := h.followed.goes (goes_clock idle later)
  followed₁ := h.followed₁.goes (goes_clock (h.idle idle) (h.now.1 ▸ later))
  followed₂ := h.followed₂.goes (goes_clock (h.swap.idle idle) (h.now.2 ▸ later))

theorem settle (h : Shared P T₁ T₂ b b₁ b₂) (idle : b.Idle) {now : Nat} (later : b.now ≤ now) :
    Shares P T₁ T₂ (Time.Passing.settle now b) (Time.Passing.settle now b₁)
      (Time.Passing.settle now b₂) :=
  (h.clock idle later).rest

theorem pass : ∀ (n : Nat) {T₁ T₂ : Tie} {b b₁ b₂ : Bench α}, Shared P T₁ T₂ b b₁ b₂ → b.Idle →
    Shares P T₁ T₂ (b.pass n) (b₁.pass n) (b₂.pass n)
  | 0, _, _, _, _, _, h, _ => h.shares
  | n + 1, _, _, b, b₁, b₂, h, idle => by
    have later : b.now ≤ b.now + 1 := Nat.le_add_right ..
    unfold Bench.pass
    rw [← h.now.1, ← h.now.2]
    exact (h.settle idle later).next fun settled =>
      settled.pass n (h.followed.settle idle later).2

/-- The three sleep alike. -/
theorem sleep (h : Shared P T₁ T₂ b b₁ b₂) (ms : Nat) :
    Shares P T₁ T₂ (b.sleep ms) (b₁.sleep ms) (b₂.sleep ms) := by
  rw [h.followed.sleep_eq, h.followed₁.sleep_eq, h.followed₂.sleep_eq]
  exact h.rest.next fun rested => rested.pass ms h.followed.idle_rest

theorem jump (h : Shared P T₁ T₂ b b₁ b₂) (ms : Nat) :
    Shares P T₁ T₂ (b.jump ms) (b₁.jump ms) (b₂.jump ms) := by
  have later : b.rest.now ≤ b.now + ms := now_rest b ▸ Nat.le_add_right ..
  rw [jump_eq, jump_eq, jump_eq, ← h.now.1, ← h.now.2]
  exact h.rest.next fun rested => rested.settle h.followed.idle_rest later

/-! ### Waiting -/

/-- The first party waits, and sees the same on both benches. The other party's bench lets as much time
    pass, and whatever is due at the end has yet to come. -/
theorem watch {seen seen₁ : Bench α → Option β} : ∀ (n : Nat) {T₁ T₂ : Tie} {b b₁ b₂ : Bench α},
    Shared P T₁ T₂ b b₁ b₂ → b.Idle →
    (∀ {T T₂ d d₁ d₂}, T₁.Within T → Shared P T T₂ d d₁ d₂ → seen d = seen₁ d₁) →
    ∃ b₂' m, Shares P T₁ T₂ (b.watch seen n).1 (b₁.watch seen₁ n).1 b₂' ∧
      (b.watch seen n).2 = (b₁.watch seen₁ n).2 ∧ Goes b₂ b₂' ∧
      (b.watch seen n).1.now = b.now + m ∧ b₂'.rest = (b₂.pass m).rest
  | 0, T₁, _, b, b₁, b₂, h, _, agree =>
    ⟨b₂, 0, h.shares, agree (.refl T₁) h, .refl b₂, rfl, rfl⟩
  | n + 1, T₁, _, b, b₁, b₂, h, idle, agree => by
    have later : b.now ≤ b.now + 1 := Nat.le_add_right ..
    have idle₂ : b₂.Idle := h.swap.idle idle
    have later₂ : b₂.now ≤ b.now + 1 := h.now.2 ▸ later
    unfold Bench.watch
    rw [agree (.refl T₁) h, ← h.now.1]
    cases seen₁ b₁ with
    | some r => exact ⟨b₂, 0, h.shares, rfl, .refl b₂, rfl, rfl⟩
    | none =>
      dsimp only
      split
      · refine ⟨{ b₂ with now := b.now + 1 }, 1, (h.clock idle later).shares, rfl,
          goes_clock idle₂ later₂, rfl, ?_⟩
        have settled := h.followed₂.settle idle₂ later₂
        unfold Bench.pass Bench.pass
        rw [← h.now.2, rest_idle settled.2]
        rfl
      · obtain ⟨T₁', T₂', le₁, le₂, settled⟩ := h.settle idle later
        have seen_later {T T₂ d d₁ d₂} (le : T₁'.Within T) (shared : Shared P T T₂ d d₁ d₂) :
            seen d = seen₁ d₁ := agree (le₁.trans le) shared
        obtain ⟨b₂', m, ⟨T₁'', T₂'', le₁', le₂', watched⟩, same, goes, passed, rested⟩ :=
          settled.watch n (h.followed.settle idle later).2 seen_later
        refine ⟨b₂', m + 1, ⟨T₁'', T₂'', le₁.trans le₁', le₂.trans le₂', watched⟩, same,
          (goes_settle idle₂ later₂).trans goes, ?_, ?_⟩
        · rw [passed, now_settle, Nat.add_assoc, Nat.add_comm 1 m]
        · rw [rested, Bench.pass, ← h.now.2]

/-- So it is from the start of the wait. Once whatever is due was done, it is as if the other party had
    slept. -/
theorem await (h : Shared P T₁ T₂ b b₁ b₂) (seen seen₁ : Bench α → Option β)
    (steady : ∀ (b : Bench α) now, seen { b with now } = seen b)
    (steady₁ : ∀ (b : Bench α) now, seen₁ { b with now } = seen₁ b)
    (agree : ∀ {T T₂ d d₁ d₂}, T₁.Within T → Shared P T T₂ d d₁ d₂ → seen d = seen₁ d₁)
    (timeout : Nat) :
    ∃ b₂' m, Shares P T₁ T₂ (b.await seen timeout).1 (b₁.await seen₁ timeout).1 b₂' ∧
      (b.await seen timeout).2 = (b₁.await seen₁ timeout).2 ∧ Goes b₂ b₂' ∧
      (b.await seen timeout).1.now = b.now + m ∧ b₂'.rest = (b₂.sleep m).rest := by
  have rested : b₂.rest = (b₂.sleep 0).rest := h.followed₂.rest_sleep_zero.symm
  rw [h.followed.await_eq steady, h.followed₁.await_eq steady₁, agree (.refl T₁) h]
  cases seen₁ b₁ with
  | some r => exact ⟨b₂, 0, h.shares, rfl, .refl b₂, rfl, rested⟩
  | none =>
    dsimp only
    split
    · exact ⟨b₂, 0, h.shares, rfl, .refl b₂, rfl, rested⟩
    · obtain ⟨T₁', T₂', le₁, le₂, calm⟩ := h.rest
      obtain ⟨b₂', m, ⟨T₁'', T₂'', le₁', le₂', watched⟩, same, goes, passed, slept⟩ :=
        calm.watch timeout h.followed.idle_rest fun le => agree (le₁.trans le)
      refine ⟨b₂', m, ⟨T₁'', T₂'', le₁.trans le₁', le₂.trans le₂', watched⟩, same,
        (rests_rest b₂).goes.trans goes, ?_, ?_⟩
      · rw [passed, now_rest]
      · rw [slept, h.followed₂.sleep_eq]

/-! ### Calls that are answered -/

/-- A call of a producer of the first party is answered on both benches, or on neither. -/
theorem resolve_own (h : Shared P T₁ T₂ b b₁ b₂) {i : Nat} (own : P.first.producers i) (call : Nat)
    (r : Except String α) :
    Shared P T₁ T₂ (b.resolve i call r).1 (b₁.resolve i call r).1 b₂ ∧
      (b.resolve i call r).2 = (b₁.resolve i call r).2 := by
  have followed := h.followed.goes (goes_resolve b i call r)
  have followed₁ := h.followed₁.goes (goes_resolve b₁ i call r)
  unfold Bench.resolve at followed followed₁ ⊢
  rw [h.first i own] at followed ⊢
  cases there : b₁.producers[i]? with
  | none => exact ⟨h, rfl⟩
  | some p =>
    rw [there] at followed followed₁
    dsimp only at followed followed₁ ⊢
    cases done : (p.resolve call r).2 with
    | false => exact ⟨h, rfl⟩
    | true =>
      simp only [done, Bool.not_true, Bool.false_eq_true, if_false] at followed followed₁
      have cache := answered_shared h.cache b.instant b₁.turn own call
      rw [← h.instant] at cache
      exact ⟨⟨h.now, h.origin, { cache with }, h.first.set i _,
        h.second.set_alien (P.producers i own) _, followed, followed₁, h.followed₂⟩, rfl⟩

/-- Nobody waits on the bench of the second party for the answer to a call of a producer of others. -/
theorem resolve_alien (h : Shared P T₁ T₂ b b₁ b₂) {i : Nat} (alien : ¬ P.second.producers i)
    (call : Nat) (r : Except String α) : Shared P T₁ T₂ b b₁ (b₂.resolve i call r).1 := by
  have nobody (j₂ : Job) (listed : j₂ ∈ b₂.cache.agenda) : waitsFor i call j₂ = false := by
    obtain ⟨j, -, like⟩ := h.cache.agenda.swap.mem_left listed
    rw [← waitsFor_like like, waitsFor_alien like alien]
  have followed₂ := h.followed₂.goes (goes_resolve b₂ i call r)
  rcases resolve_nobody nobody r with same | ⟨q, told⟩
  · rwa [same]
  · rw [told] at followed₂ ⊢
    exact ⟨h.now, h.origin, { h.cache with }, h.first, (h.second.symm.set_alien alien q).symm,
      h.followed, h.followed₁, followed₂⟩

/-- Nobody waits on the shared bench for the answer to a call of a producer of neither party. -/
theorem resolve_nobodys (h : Shared P T₁ T₂ b b₁ b₂) {i : Nat} (his : ¬ P.first.producers i)
    (hers : ¬ P.second.producers i) (call : Nat) (r : Except String α) :
    Shared P T₁ T₂ (b.resolve i call r).1 b₁ b₂ := by
  have nobody (j : Job) (listed : j ∈ b.cache.agenda) : waitsFor i call j = false := by
    rcases h.cache.agenda.mem listed with ⟨j₁, -, like⟩ | ⟨j₂, -, like⟩
    · exact waitsFor_alien like his call
    · exact waitsFor_alien like hers call
  have followed := h.followed.goes (goes_resolve b i call r)
  rcases resolve_nobody nobody r with same | ⟨q, told⟩
  · rwa [same]
  · rw [told] at followed ⊢
    exact ⟨h.now, h.origin, { h.cache with }, h.first.set_alien his q, h.second.set_alien hers q,
      followed, h.followed₁, h.followed₂⟩

/-- A call is answered on all three benches, on each if somebody waits there. -/
theorem resolve (h : Shared P T₁ T₂ b b₁ b₂) (i call : Nat) (r : Except String α) :
    Shared P T₁ T₂ (b.resolve i call r).1 (b₁.resolve i call r).1 (b₂.resolve i call r).1 := by
  by_cases his : P.first.producers i
  · exact (h.resolve_own his call r).1.resolve_alien (P.producers i his) call r
  · by_cases hers : P.second.producers i
    · exact ((h.swap.resolve_own hers call r).1.resolve_alien his call r).swap
    · exact (((h.resolve_nobodys his hers call r).resolve_alien hers call r).swap.resolve_alien his
        call r).swap

end Shared

end TaskWatch.Bench
