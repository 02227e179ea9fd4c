import Mathlib.Data.List.Forall2
import TaskWatch.Proofs.Cache.Basic
import TaskWatch.Proofs.Cache.Shuffle
import TaskWatch.Proofs.Cache.Timers

/-! Caches that two parties share.

    Two parties may use one cache or each a cache of its own. If they have neither queries nor producers
    in common, the cache that they share is shuffled from the two: its slots, its jobs and its remains
    are those of one or the other, in the same order. Only the numbers differ, which are given out to
    both; a tie says which numbers of the shared cache stand for which numbers of a party's own.

    To swap the parties changes nothing, so whatever is shown of the first holds of the second. -/

namespace TaskWatch

/-- The same moment on another turn. -/
def Time.Instant.onTurn (now : Time.Instant) (turn : Nat) : Time.Instant := { now with turn }

namespace Cache

variable {α : Type}

/-- Somebody who uses a cache: the queries and the producers that are theirs. -/
structure Party where
  keys : Key → Prop
  producers : Nat → Prop

/-- Two parties that have neither queries nor producers in common. -/
structure Parties where
  first : Party
  second : Party
  keys : ∀ k, first.keys k → ¬ second.keys k
  producers : ∀ p, first.producers p → ¬ second.producers p

/-- The parties in the other order. -/
def Parties.swap (P : Parties) : Parties where
  first := P.second
  second := P.first
  keys k hers his := P.keys k his hers
  producers p hers his := P.producers p his hers

/-- Which numbers of a cache stand for which numbers of another. -/
structure Tie where
  number : Nat → Nat → Prop
  job : Nat → Nat → Prop

/-- No number was given out. -/
def Tie.none : Tie := ⟨fun _ _ => False, fun _ _ => False⟩

/-- The numbers given out so far stand for themselves. -/
def Tie.upTo (sequence begun : Nat) : Tie where
  number a x := a = x ∧ a ≤ sequence
  job n m := n = m ∧ n ≤ begun

/-- The second tie ties what the first does, and perhaps more. -/
structure Tie.Within (T T' : Tie) : Prop where
  number : ∀ a x, T.number a x → T'.number a x
  job : ∀ n m, T.job n m → T'.job n m

variable {T T' T₁ T₂ : Tie}

theorem Tie.Within.refl (T : Tie) : T.Within T := ⟨fun _ _ => id, fun _ _ => id⟩

theorem Tie.Within.trans {T'' : Tie} (h : T.Within T') (h' : T'.Within T'') : T.Within T'' :=
  ⟨fun a x tied => h'.number a x (h.number a x tied), fun n m tied => h'.job n m (h.job n m tied)⟩

/-! ### Numbers -/

/-- One more number stands for another. -/
def also (R : Nat → Nat → Prop) (a x : Nat) : Nat → Nat → Prop := fun b y => R b y ∨ (b = a ∧ y = x)

/-- Of the numbers given out so far, which one stands for which: each for one at most, of one party. -/
structure Fits (R Q : Nat → Nat → Prop) (n n₁ n₂ : Nat) : Prop where
  given₁ : ∀ a x, R a x → a ≤ n ∧ x ≤ n₁
  given₂ : ∀ a x, Q a x → a ≤ n ∧ x ≤ n₂
  same₁ : ∀ a x b y, R a x → R b y → (a = b ↔ x = y)
  same₂ : ∀ a x b y, Q a x → Q b y → (a = b ↔ x = y)
  apart : ∀ a x y, R a x → ¬ Q a y

namespace Fits

variable {R Q : Nat → Nat → Prop} {n n₁ n₂ a b x y : Nat}

theorem none : Fits (fun _ _ => False) (fun _ _ => False) 0 0 0 :=
  ⟨nofun, nofun, nofun, nofun, nofun⟩

theorem upTo (n : Nat) : Fits (fun _ _ => False) (fun a x => a = x ∧ a ≤ n) n 0 n where
  given₁ _ _ := False.elim
  given₂ _ _ tied := ⟨tied.2, tied.1 ▸ tied.2⟩
  same₁ _ _ _ _ := False.elim
  same₂ _ _ _ _ tied tied' := by rw [tied.1, tied'.1]
  apart _ _ _ := False.elim

theorem swap (h : Fits R Q n n₁ n₂) : Fits Q R n n₂ n₁ :=
  ⟨h.given₂, h.given₁, h.same₂, h.same₁, fun a x y hers his => h.apart a y x his hers⟩

/-- The next number is given to the first party. -/
theorem also (h : Fits R Q n n₁ n₂) : Fits (also R (n + 1) (n₁ + 1)) Q (n + 1) (n₁ + 1) n₂ := by
  refine ⟨fun a x => ?_, fun a x tied => ?_, fun a x b y => ?_, h.same₂, fun a x y => ?_⟩
  · rintro (tied | ⟨rfl, rfl⟩)
    · exact (h.given₁ a x tied).imp Nat.le_succ_of_le Nat.le_succ_of_le
    · exact ⟨Nat.le_refl _, Nat.le_refl _⟩
  · exact (h.given₂ a x tied).imp_left Nat.le_succ_of_le
  · rintro (tied | ⟨rfl, rfl⟩) (tied' | ⟨rfl, rfl⟩)
    · exact h.same₁ a x b y tied tied'
    · have := h.given₁ a x tied
      omega
    · have := h.given₁ b y tied'
      omega
    · exact iff_of_true rfl rfl
  · rintro (tied | ⟨rfl, rfl⟩) tied'
    · exact h.apart a x y tied tied'
    · have := h.given₂ _ _ tied'
      omega

theorem beq_same (h : Fits R Q n n₁ n₂) (tied : R a x) (tied' : R b y) : (a == b) = (x == y) := by
  rw [Bool.eq_iff_iff, beq_iff_eq, beq_iff_eq]
  exact h.same₁ a x b y tied tied'

/-- Numbers of two parties differ. -/
theorem beq_apart (h : Fits R Q n n₁ n₂) (tied : R a x) (tied' : Q b y) : (b == a) = false := by
  refine beq_eq_false_iff_ne.mpr ?_
  rintro rfl
  exact h.apart _ x y tied tied'

end Fits

/-! ### What the parties have in the cache -/

/-- A fetch, with other numbers. -/
structure Flight.Like (T : Tie) (f f' : Flight) : Prop where
  generation : T.number f.generation f'.generation
  job : T.job f.job f'.job

structure Timer.Like (T : Tie) (t t' : Timer) : Prop where
  period : t.period = t'.period
  job : T.job t.job t'.job

structure Eviction.Like (T : Tie) (e e' : Eviction) : Prop where
  token : T.number e.token e'.token
  job : T.job e.job e'.job

/-- A slot, with other numbers. -/
structure Slot.Like (T : Tie) (s s' : Slot α) : Prop where
  birth : T.number s.birth s'.birth
  entry : s.entry = s'.entry
  version : s.version = s'.version
  producer : s.producer = s'.producer
  subscribers :
    List.Forall₂ (fun p p' => T.number p.1 p'.1 ∧ p.2 = p'.2) s.subscribers s'.subscribers
  inFlight : Option.Rel (Flight.Like T) s.inFlight s'.inFlight
  invalidated : s.invalidated = s'.invalidated
  timer : Option.Rel (Timer.Like T) s.timer s'.timer
  eviction : Option.Rel (Eviction.Like T) s.eviction s'.eviction

/-- A duty for the party, with other numbers. -/
inductive Duty.Like (p : Party) (T : Tie) : Duty → Duty → Prop
  | call {g g' producer : Nat} (tied : T.number g g') (own : p.producers producer) :
      Like p T (.call g producer) (.call g' producer)
  | reply {g g' producer : Nat} (call : Nat) (tied : T.number g g') (own : p.producers producer) :
      Like p T (.reply g producer call) (.reply g' producer call)
  | release {producer : Nat} (call : Nat) (own : p.producers producer) :
      Like p T (.release producer call) (.release producer call)
  | poll (period : Nat) : Like p T (.poll period) (.poll period)
  | collect {token token' : Nat} (tied : T.number token token') :
      Like p T (.collect token) (.collect token')

/-- A job of the party, with other numbers. Its timers are for its queries. -/
structure Job.Like (p : Party) (T : Tie) (j j' : Job) : Prop where
  number : T.job j.number j'.number
  key : j.key = j'.key
  duty : Duty.Like p T j.duty j'.duty
  due : j.due = j'.due
  own : j.isTimer = true → p.keys j.key

/-- The slot of a query of the party. -/
structure Row.Like (p : Party) (T : Tie) (r r' : Key × Slot α) : Prop where
  key : r.1 = r'.1
  own : p.keys r.1
  producer : p.producers r.2.producer
  slot : r.2.Like T r'.2

structure Remains.Like (T : Tie) (r r' : Remains α) : Prop where
  birth : T.number r.birth r'.birth
  entry : r.entry = r'.entry
  version : r.version = r'.version

theorem rel_mono {β γ : Type} {R R' : β → γ → Prop} (more : ∀ x y, R x y → R' x y) {x : Option β}
    {y : Option γ} (h : Option.Rel R x y) : Option.Rel R' x y := by
  cases h with
  | none => exact .none
  | some h => exact .some (more _ _ h)

theorem rel_any {β γ : Type} {R : β → γ → Prop} {p : β → Bool} {q : γ → Bool} {x : Option β}
    {y : Option γ} (h : Option.Rel R x y) (same : ∀ x y, R x y → p x = q y) : x.any p = y.any q := by
  cases h with
  | none => rfl
  | some h => exact same _ _ h

theorem rel_map_eq {β γ δ : Type} {R : β → γ → Prop} {f : β → δ} {g : γ → δ} {x : Option β}
    {y : Option γ} (h : Option.Rel R x y) (same : ∀ x y, R x y → f x = g y) : x.map f = y.map g := by
  cases h with
  | none => rfl
  | some h => exact congrArg some (same _ _ h)

theorem rel_map {β γ β' γ' : Type} {R : β → γ → Prop} {R' : β' → γ' → Prop} {f : β → β'} {g : γ → γ'}
    {x : Option β} {y : Option γ} (h : Option.Rel R x y) (same : ∀ x y, R x y → R' (f x) (g y)) :
    Option.Rel R' (x.map f) (y.map g) := by
  cases h with
  | none => exact .none
  | some h => exact .some (same _ _ h)

theorem Slot.Like.mono {s s' : Slot α} (le : T.Within T') (h : s.Like T s') : s.Like T' s' where
  birth := le.number _ _ h.birth
  entry := h.entry
  version := h.version
  producer := h.producer
  subscribers := h.subscribers.imp fun _ _ same => same.imp_left (le.number _ _)
  inFlight := rel_mono (fun _ _ f => ⟨le.number _ _ f.generation, le.job _ _ f.job⟩) h.inFlight
  invalidated := h.invalidated
  timer := rel_mono (fun _ _ t => ⟨t.period, le.job _ _ t.job⟩) h.timer
  eviction := rel_mono (fun _ _ e => ⟨le.number _ _ e.token, le.job _ _ e.job⟩) h.eviction

section

variable {s s' : Slot α}

theorem Slot.Like.flying (h : s.Like T s') {g g' n n' : Nat} (generation : T.number g g')
    (job : T.job n n') : Slot.Like T { s with inFlight := some { generation := g, job := n } }
      { s' with inFlight := some { generation := g', job := n' } } :=
  { h with inFlight := .some ⟨generation, job⟩ }

theorem Slot.Like.landed (h : s.Like T s') :
    Slot.Like T { s with inFlight := none } { s' with inFlight := none } :=
  { h with inFlight := .none }

theorem Slot.Like.timed (h : s.Like T s') (period : Nat) {n n' : Nat} (job : T.job n n') :
    Slot.Like T { s with timer := some { period, job := n } }
      { s' with timer := some { period, job := n' } } :=
  { h with timer := .some ⟨rfl, job⟩ }

theorem Slot.Like.stopped (h : s.Like T s') :
    Slot.Like T { s with timer := none } { s' with timer := none } :=
  { h with timer := .none }

theorem Slot.Like.pending (h : s.Like T s') {a a' n n' : Nat} (token : T.number a a')
    (job : T.job n n') : Slot.Like T { s with eviction := some { token := a, job := n } }
      { s' with eviction := some { token := a', job := n' } } :=
  { h with eviction := .some ⟨token, job⟩ }

theorem Slot.Like.marked (h : s.Like T s') (invalidated : Bool) :
    Slot.Like T { s with invalidated } { s' with invalidated } :=
  { h with invalidated := rfl }

/-- The same is published of both. -/
theorem Slot.Like.publish (h : s.Like T s') (f : Entry α → Entry α) :
    (s.publish f).Like T (s'.publish f) :=
  { h with
    entry := congrArg f h.entry
    version := congrArg (· + 1) h.version }

theorem Slot.Like.period? (h : s.Like T s') : s.period? = s'.period? := by
  have intervals {xs ys : List (Nat × Nat)}
      (like : List.Forall₂ (fun p p' => T.number p.1 p'.1 ∧ p.2 = p'.2) xs ys) :
      xs.map Prod.snd = ys.map Prod.snd := by
    induction like with
    | nil => rfl
    | cons same _ ih => rw [List.map_cons, List.map_cons, same.2, ih]
  rw [Slot.period?, Slot.period?, intervals h.subscribers]

theorem Slot.Like.lonely (h : s.Like T s') : s.subscribers.isEmpty = s'.subscribers.isEmpty := by
  have like := h.subscribers
  generalize s.subscribers = left, s'.subscribers = left' at like
  cases like <;> rfl

end

theorem Duty.Like.mono {p : Party} {d d' : Duty} (le : T.Within T') (h : Duty.Like p T d d') :
    Duty.Like p T' d d' := by
  cases h with
  | call tied own => exact .call (le.number _ _ tied) own
  | reply call tied own => exact .reply call (le.number _ _ tied) own
  | release call own => exact .release call own
  | poll period => exact .poll period
  | collect tied => exact .collect (le.number _ _ tied)

theorem Job.Like.mono {p : Party} {j j' : Job} (le : T.Within T') (h : j.Like p T j') :
    j.Like p T' j' :=
  ⟨le.job _ _ h.number, h.key, h.duty.mono le, h.due, h.own⟩

theorem Row.Like.mono {p : Party} {r r' : Key × Slot α} (le : T.Within T') (h : Row.Like p T r r') :
    Row.Like p T' r r' :=
  ⟨h.key, h.own, h.producer, h.slot.mono le⟩

theorem Remains.Like.mono {r r' : Remains α} (le : T.Within T') (h : r.Like T r') : r.Like T' r' :=
  ⟨le.number _ _ h.birth, h.entry, h.version⟩

/-- The first cache serves both parties as the second would the first and the third the second. -/
structure Shared (P : Parties) (T₁ T₂ : Tie) (c c₁ c₂ : Cache α) : Prop where
  numbers : Fits T₁.number T₂.number c.sequence c₁.sequence c₂.sequence
  jobs : Fits T₁.job T₂.job c.begun c₁.begun c₂.begun
  grace : c.grace = c₁.grace ∧ c.grace = c₂.grace
  abandoned : c.abandoned = c₁.abandoned ∧ c.abandoned = c₂.abandoned
  slots : Shuffle (Row.Like P.first T₁) (Row.Like P.second T₂) c.slots.rows c₁.slots.rows
    c₂.slots.rows
  agenda : Shuffle (Job.Like P.first T₁) (Job.Like P.second T₂) c.agenda c₁.agenda c₂.agenda
  remains : Shuffle (Remains.Like T₁) (Remains.Like T₂) c.remains c₁.remains c₂.remains

namespace Shared

variable {P : Parties} {c c₁ c₂ : Cache α} {k : Key} {s s₁ : Slot α} {now : Time.Instant} {t : Nat}

/-- The parties can change places. -/
theorem swap (h : Shared P T₁ T₂ c c₁ c₂) : Shared P.swap T₂ T₁ c c₂ c₁ where
  numbers := h.numbers.swap
  jobs := h.jobs.swap
  grace := h.grace.symm
  abandoned := h.abandoned.symm
  slots := h.slots.swap
  agenda := h.agenda.swap
  remains := h.remains.swap

/-! ### What is found -/

/-- A slot is of one party or the other. -/
inductive Finds (P : Parties) (T₁ T₂ : Tie) (k : Key) :
    Option (Slot α) → Option (Slot α) → Option (Slot α) → Prop
  | none : Finds P T₁ T₂ k none none none
  | first {s s₁ : Slot α} (own : P.first.keys k) (producer : P.first.producers s.producer)
      (like : s.Like T₁ s₁) : Finds P T₁ T₂ k (some s) (some s₁) none
  | second {s s₂ : Slot α} (own : P.second.keys k) (producer : P.second.producers s.producer)
      (like : s.Like T₂ s₂) : Finds P T₁ T₂ k (some s) none (some s₂)

/-- A query of one party is not among the slots of the other. -/
theorem lookup_alien {p : Party} {T : Tie} {rows : List (Key × Slot α)} (alien : ¬ p.keys k) :
    (∀ r' ∈ rows, ∃ r : Key × Slot α, Row.Like p T r r') → rows.lookup k = none := by
  intro own
  refine List.lookup_eq_none_iff.mpr fun r' listed => ?_
  obtain ⟨r, like⟩ := own r' listed
  refine bne_iff_ne.mpr ?_
  rintro rfl
  exact alien (like.key ▸ like.own)

theorem lookup {rows rows₁ rows₂ : List (Key × Slot α)}
    (h : Shuffle (Row.Like P.first T₁) (Row.Like P.second T₂) rows rows₁ rows₂) (k : Key) :
    Finds P T₁ T₂ k (rows.lookup k) (rows₁.lookup k) (rows₂.lookup k) := by
  induction h with
  | nil => exact .none
  | @left r r₁ _ _ _ goes rest ih =>
    obtain ⟨l, s⟩ := r
    obtain ⟨l₁, s₁⟩ := r₁
    obtain rfl : l = l₁ := goes.key
    by_cases hl : k = l
    · subst hl
      have none := lookup_alien (P.keys k goes.own) fun r' hr' =>
        (rest.swap.mem_left hr').imp fun _ h => h.2
      simp only [List.lookup_cons_self, none]
      exact .first goes.own goes.producer goes.slot
    · rw [Table.lookup_cons_ne hl, Table.lookup_cons_ne hl]
      exact ih
  | @right r r₂ _ _ _ goes rest ih =>
    obtain ⟨l, s⟩ := r
    obtain ⟨l₂, s₂⟩ := r₂
    obtain rfl : l = l₂ := goes.key
    by_cases hl : k = l
    · subst hl
      have none := lookup_alien (fun hers => P.keys k hers goes.own) fun r' hr' =>
        (rest.mem_left hr').imp fun _ h => h.2
      simp only [List.lookup_cons_self, none]
      exact .second goes.own goes.producer goes.slot
    · rw [Table.lookup_cons_ne hl, Table.lookup_cons_ne hl]
      exact ih

theorem finds (h : Shared P T₁ T₂ c c₁ c₂) (k : Key) :
    Finds P T₁ T₂ k (c.slots.find? k) (c₁.slots.find? k) (c₂.slots.find? k) :=
  lookup h.slots k

/-- A query of the first party has slots that are alike, or none. -/
theorem cases (h : Shared P T₁ T₂ c c₁ c₂) (own : P.first.keys k) :
    (c.slots.find? k = none ∧ c₁.slots.find? k = none) ∨
      ∃ s s₁, c.slots.find? k = some s ∧ c₁.slots.find? k = some s₁ ∧
        P.first.producers s.producer ∧ s.Like T₁ s₁ := by
  have finds := h.finds k
  generalize c.slots.find? k = found, c₁.slots.find? k = found₁, c₂.slots.find? k = found₂ at finds
  cases finds with
  | none => exact .inl ⟨rfl, rfl⟩
  | first own producer like => exact .inr ⟨_, _, rfl, rfl, producer, like⟩
  | second other => exact (P.keys k own other).elim

/-! ### Small changes -/

theorem count (h : Shared P T₁ T₂ c c₁ c₂) (f f₁ : Stats → Stats) :
    Shared P T₁ T₂ (c.count f) (c₁.count f₁) c₂ :=
  { h with }

theorem report (h : Shared P T₁ T₂ c c₁ c₂) (e e₁ : Event) :
    Shared P T₁ T₂ (c.report e) (c₁.report e₁) c₂ :=
  { h with }

theorem slots_mono (h : Shared P T₁ T₂ c c₁ c₂) {T : Tie} (le : T₁.Within T) :
    Shuffle (Row.Like P.first T) (Row.Like P.second T₂) c.slots.rows c₁.slots.rows c₂.slots.rows :=
  h.slots.imp (fun _ _ => Row.Like.mono le) fun _ _ => id

theorem agenda_mono (h : Shared P T₁ T₂ c c₁ c₂) {T : Tie} (le : T₁.Within T) :
    Shuffle (Job.Like P.first T) (Job.Like P.second T₂) c.agenda c₁.agenda c₂.agenda :=
  h.agenda.imp (fun _ _ => Job.Like.mono le) fun _ _ => id

theorem remains_mono (h : Shared P T₁ T₂ c c₁ c₂) {T : Tie} (le : T₁.Within T) :
    Shuffle (Remains.Like T) (Remains.Like T₂) c.remains c₁.remains c₂.remains :=
  h.remains.imp (fun _ _ => Remains.Like.mono le) fun _ _ => id

/-- The first party is given the next number. -/
theorem numbered (h : Shared P T₁ T₂ c c₁ c₂) :
    ∃ T, T₁.Within T ∧ T.number c.nextNumber c₁.nextNumber ∧
      Shared P T T₂ c.numbered c₁.numbered c₂ := by
  have le : T₁.Within { T₁ with number := also T₁.number c.nextNumber c₁.nextNumber } :=
    ⟨fun _ _ => .inl, fun _ _ => id⟩
  exact ⟨_, le, .inr ⟨rfl, rfl⟩, { h with
    numbers := h.numbers.also
    slots := h.slots_mono le
    agenda := h.agenda_mono le
    remains := h.remains_mono le }⟩

/-- A job is begun for the first party. -/
theorem spawn (h : Shared P T₁ T₂ c c₁ c₂) (now : Time.Instant) (t : Nat) {duty duty₁ : Duty}
    (like : Duty.Like P.first T₁ duty duty₁) (own : P.first.keys k) (due : Nat) :
    ∃ T, T₁.Within T ∧ T.job c.nextJob c₁.nextJob ∧
      Shared P T T₂ (c.spawn now k duty due) (c₁.spawn (now.onTurn t) k duty₁ due) c₂ := by
  have le : T₁.Within { T₁ with job := also T₁.job c.nextJob c₁.nextJob } :=
    ⟨fun _ _ => id, fun _ _ => .inl⟩
  exact ⟨_, le, .inr ⟨rfl, rfl⟩, { h with
    jobs := h.jobs.also
    slots := h.slots_mono le
    agenda := (h.agenda_mono le).snoc ⟨.inr ⟨rfl, rfl⟩, rfl, like.mono le, rfl, fun _ => own⟩
    remains := h.remains_mono le }⟩

/-- Jobs are taken off that are alike. -/
theorem remove (h : Shared P T₁ T₂ c c₁ c₂) {n n₁ : Nat} (tied : T₁.job n n₁) :
    Shuffle (Job.Like P.first T₁) (Job.Like P.second T₂) (c.agenda.remove n) (c₁.agenda.remove n₁)
      c₂.agenda := by
  refine h.agenda.filter_left (fun j j₁ like => ?_) fun j j₂ like => ?_
  · rw [bne, bne, h.jobs.beq_same like.number tied]
  · rw [bne, h.jobs.beq_apart tied like.number]
    rfl

theorem without (h : Shared P T₁ T₂ c c₁ c₂) {j j₁ : Job} (like : j.Like P.first T₁ j₁) :
    Shared P T₁ T₂ (c.without j) (c₁.without j₁) c₂ :=
  { h with agenda := h.remove like.number }

/-- A job of the first party is given up. -/
theorem abort (h : Shared P T₁ T₂ c c₁ c₂) (now : Time.Instant) (t : Nat) {n n₁ : Nat}
    (tied : T₁.job n n₁) :
    Shared P T₁ T₂ (c.abort now n) (c₁.abort (now.onTurn t) n₁) c₂ := by
  have found : Option.Rel (Job.Like P.first T₁) (c.agenda.find? n) (c₁.agenda.find? n₁) :=
    h.agenda.find? (fun j j₁ like => h.jobs.beq_same like.number tied)
      fun j j₂ like => h.jobs.beq_apart tied like.number
  have removed := h.remove tied
  unfold Cache.abort
  generalize c.agenda.find? n = one, c₁.agenda.find? n₁ = other at found
  cases found with
  | none => exact h
  | @some j j₁ like =>
    obtain ⟨number, key, duty, due, turn⟩ := j
    obtain ⟨number₁, key₁, duty₁, due₁, turn₁⟩ := j₁
    obtain ⟨tied', same, duties, -, -⟩ := like
    cases duties with
    | reply call tied own =>
      exact { h with agenda := removed.snoc ⟨tied', same, .release call own, rfl, nofun⟩ }
    | _ => exact { h with agenda := removed }

theorem abort? (h : Shared P T₁ T₂ c c₁ c₂) (now : Time.Instant) (t : Nat) {n n₁ : Option Nat}
    (tied : Option.Rel T₁.job n n₁) :
    Shared P T₁ T₂ (c.abort? now n) (c₁.abort? (now.onTurn t) n₁) c₂ := by
  cases tied with
  | none => exact h
  | some tied => exact h.abort now t tied

/-- The slot of a query of the first party changes in both caches. -/
theorem setSlot (h : Shared P T₁ T₂ c c₁ c₂) (own : P.first.keys k) (like : s.Like T₁ s₁)
    (producer : P.first.producers s.producer) :
    Shared P T₁ T₂ (c.setSlot k s) (c₁.setSlot k s₁) c₂ := by
  have goes : Row.Like P.first T₁ (k, s) (k, s₁) := ⟨rfl, own, producer, like⟩
  have replaced {rows rows₁ rows₂ : List (Key × Slot α)}
      (slots : Shuffle (Row.Like P.first T₁) (Row.Like P.second T₂) rows rows₁ rows₂) :
      Shuffle (Row.Like P.first T₁) (Row.Like P.second T₂) (Table.replace k s rows)
        (Table.replace k s₁ rows₁) rows₂ := by
    induction slots with
    | nil => exact .nil
    | @left r r₁ _ _ _ same rest ih =>
      obtain ⟨l, r⟩ := r
      obtain ⟨l₁, r₁⟩ := r₁
      obtain rfl : l = l₁ := same.key
      unfold Table.replace
      split
      · exact .left goes rest
      · exact .left same ih
    | @right r r₂ _ _ _ same rest ih =>
      obtain ⟨l, r⟩ := r
      have other : ¬ k = l := by
        rintro rfl
        exact P.keys k own same.own
      rw [Table.replace, if_neg other]
      exact .right same ih
  have slots : Shuffle (Row.Like P.first T₁) (Row.Like P.second T₂) (c.slots.insert k s).rows
      (c₁.slots.insert k s₁).rows c₂.slots.rows := by
    unfold Table.insert
    rcases h.cases own with ⟨vacant, vacant₁⟩ | ⟨r, r₁, there, there₁, -, -⟩
    · rw [vacant, vacant₁]
      exact h.slots.snoc goes
    · rw [there, there₁]
      exact replaced h.slots
  exact { h with slots }

/-- The entry of a query of the first party is dropped from both caches. -/
theorem evict (h : Shared P T₁ T₂ c c₁ c₂) (own : P.first.keys k) :
    Shared P T₁ T₂ (c.evict k) (c₁.evict k) c₂ := by
  refine { h with slots := h.slots.filter_left (fun r r₁ like => by rw [like.key]) fun r r₂ like => ?_ }
  refine bne_iff_ne.mpr ?_
  rintro rfl
  exact P.keys _ own like.own

end Shared

end Cache

end TaskWatch
