import Mathlib.Data.List.Nodup
import TaskWatch.Proofs.Cache.Roster

/-! Which jobs there are, and what for.

    A job on the agenda fills a post: it carries out a fetch, runs a timer, or waits to evict an entry.
    Only a job that lets go of a call fills none. Jobs are numbered as they are begun, so a number tells
    the job and its post. `Has` is the view on an agenda: the small operations add a post to it or
    take the post of one number off. -/

namespace TaskWatch.Cache

variable {α : Type} {now : Time.Instant} {k l : Key} {c : Cache α} {n m : Nat}

/-- What a job is there for. -/
inductive Post where
  | fetch (generation : Nat)
  | poll (period : Nat)
  | collect (token : Nat)
  deriving DecidableEq, Repr

/-- The post that a duty belongs to. -/
def Duty.post? : Duty → Option Post
  | .call g _ => some (.fetch g)
  | .reply g _ _ => some (.fetch g)
  | .release _ _ => none
  | .poll period => some (.poll period)
  | .collect token => some (.collect token)

theorem Job.generation?_eq {j : Job} {g : Nat} :
    j.generation? = some g ↔ j.duty.post? = some (.fetch g) := by
  unfold Job.generation? Duty.post?
  cases j.duty <;> simp

variable {p q : Post}

namespace Agenda

variable {agenda : Agenda}

/-- A job with this number fills the post for the query. -/
def Has (agenda : Agenda) (k : Key) (n : Nat) (p : Post) : Prop :=
  ∃ j ∈ agenda, j.key = k ∧ j.number = n ∧ j.duty.post? = some p

/-- Every job has a number of its own, and as many jobs were begun. -/
structure Numbered (agenda : Agenda) (begun : Nat) : Prop where
  distinct : (agenda.map Job.number).Nodup
  begun : ∀ j ∈ agenda, j.number ≤ begun

theorem Numbered.job {begun : Nat} (inv : agenda.Numbered begun) {i j : Job} (hi : i ∈ agenda)
    (hj : j ∈ agenda) (same : i.number = j.number) : i = j :=
  List.inj_on_of_nodup_map inv.distinct hi hj same

/-- A number tells the query and the post. -/
theorem Numbered.unique {begun : Nat} (inv : agenda.Numbered begun) (h : agenda.Has k n p)
    (h' : agenda.Has l n q) : k = l ∧ p = q := by
  obtain ⟨i, hi, rfl, same, post⟩ := h
  obtain ⟨j, hj, rfl, rfl, post'⟩ := h'
  obtain rfl := inv.job hi hj same
  exact ⟨rfl, Option.some.inj (post.symm.trans post')⟩

theorem Numbered.le {begun : Nat} (inv : agenda.Numbered begun) (h : agenda.Has k n p) :
    n ≤ begun := by
  obtain ⟨j, hj, -, rfl, -⟩ := h
  exact inv.begun j hj

/-- The one job of a kind, if every job of that kind has its number. -/
theorem Numbered.filter_eq_singleton {begun : Nat} (inv : agenda.Numbered begun)
    {kind : Job → Bool} {j : Job} (listed : j ∈ agenda) (fits : kind j = true)
    (only : ∀ i ∈ agenda, kind i = true → i.number = j.number) : agenda.filter kind = [j] := by
  by_contra other
  have once : (agenda.filter kind).Nodup := inv.distinct.of_map.filter kind
  rcases (once.ne_singleton_iff j).mp other with none | ⟨i, hi, differs⟩
  · exact List.not_mem_nil (none ▸ List.mem_filter.mpr ⟨listed, fits⟩)
  · obtain ⟨hi, fits'⟩ := List.mem_filter.mp hi
    exact differs (inv.job hi listed (only i hi fits'))

/-! ### The small operations on an agenda -/

/-- A fold that keeps what it has or takes the next job ends with one of the jobs. -/
theorem mem_of_foldl {choose : Option Job → Job → Option Job}
    (either : ∀ best j, choose best j = best ∨ choose best j = some j) {j : Job} :
    ∀ (jobs : List Job) {best : Option Job}, jobs.foldl choose best = some j →
      j ∈ jobs ∨ best = some j
  | [], _, found => .inr found
  | i :: rest, best, found => by
    rcases mem_of_foldl either rest found with listed | first
    · exact .inl (List.mem_cons_of_mem i listed)
    · rcases either best i with kept | taken
      · exact .inr (kept.symm.trans first)
      · obtain rfl := Option.some.inj (taken.symm.trans first)
        exact .inl (List.mem_cons_self ..)

/-- A fold that always takes something ends with something. -/
theorem isSome_of_foldl {choose : Option Job → Job → Option Job}
    (takes : ∀ best j, (choose best j).isSome) :
    ∀ (jobs : List Job) (best : Option Job), best.isSome ∨ jobs ≠ [] →
      (jobs.foldl choose best).isSome
  | [], _, something => something.resolve_right (by simp)
  | i :: rest, best, _ => isSome_of_foldl takes rest (choose best i) (.inl (takes best i))

/-- The job that is to run next is on the agenda and due. -/
theorem next?_due {now : Nat} {j : Job} (next : agenda.next? now = some j) :
    j ∈ agenda ∧ j.isDue now = true := by
  refine List.mem_filter.mp ((mem_of_foldl (fun best i => ?_) _ next).resolve_right (by simp))
  cases best with
  | none => exact .inr rfl
  | some b =>
    dsimp only
    split
    · exact .inl rfl
    · exact .inr rfl

/-- If no job is to run next, none is due. -/
theorem next?_none {now : Nat} {j : Job} (asleep : agenda.next? now = none) (listed : j ∈ agenda) :
    j.isDue now = false := by
  refine Bool.eq_false_iff.mpr fun due => ?_
  have fits : j ∈ agenda.filter (Job.isDue now) := List.mem_filter.mpr ⟨listed, due⟩
  have found : (agenda.next? now).isSome := by
    refine isSome_of_foldl (fun best i => ?_) _ none (.inr (List.ne_nil_of_mem fits))
    cases best with
    | none => rfl
    | some b =>
      dsimp only
      split <;> rfl
  rw [asleep] at found
  exact nomatch found

theorem mem_remove {j : Job} : j ∈ agenda.remove n ↔ j ∈ agenda ∧ j.number ≠ n := by
  simp [remove]

theorem has_remove : (agenda.remove m).Has k n p ↔ agenda.Has k n p ∧ n ≠ m := by
  constructor
  · rintro ⟨j, hj, hk, rfl, post⟩
    obtain ⟨hj, hm⟩ := mem_remove.mp hj
    exact ⟨⟨j, hj, hk, rfl, post⟩, hm⟩
  · rintro ⟨⟨j, hj, hk, rfl, post⟩, hm⟩
    exact ⟨j, mem_remove.mpr ⟨hj, hm⟩, hk, rfl, post⟩

theorem has_append {j : Job} :
    Has (agenda ++ [j]) k n p ↔
      agenda.Has k n p ∨ j.key = k ∧ j.number = n ∧ j.duty.post? = some p := by
  simp [Has, or_and_right, exists_or]

theorem Numbered.remove {begun : Nat} (inv : agenda.Numbered begun) (n : Nat) :
    (agenda.remove n).Numbered begun :=
  ⟨inv.distinct.sublist (List.filter_sublist.map _), fun j hj => inv.begun j (mem_remove.mp hj).1⟩

/-- A job that takes up a number which is free. -/
theorem Numbered.append {begun begun' : Nat} (inv : agenda.Numbered begun) (le : begun ≤ begun')
    {j : Job} (free : ∀ i ∈ agenda, i.number ≠ j.number) (known : j.number ≤ begun') :
    Numbered (agenda ++ [j]) begun' := by
  constructor
  · rw [List.map_append, List.nodup_append]
    refine ⟨inv.distinct, List.pairwise_singleton .., fun a ha b hb => ?_⟩
    obtain ⟨i, hi, rfl⟩ := List.mem_map.mp ha
    obtain rfl := List.mem_singleton.mp hb
    exact free i hi
  · intro i hi
    rcases List.mem_append.mp hi with hi | hi
    · exact Nat.le_trans (inv.begun i hi) le
    · obtain rfl := List.mem_singleton.mp hi
      exact known

/-- Jobs are changed in ways that show neither in their numbers nor in their posts. -/
theorem Numbered.map {begun : Nat} (inv : agenda.Numbered begun) (f : Job → Job)
    (number : ∀ j, (f j).number = j.number) : Numbered (agenda.map f) begun := by
  constructor
  · rw [List.map_map, show Job.number ∘ f = Job.number from funext number]
    exact inv.distinct
  · intro j hj
    obtain ⟨i, hi, rfl⟩ := List.mem_map.mp hj
    rw [number]
    exact inv.begun i hi

theorem has_map (f : Job → Job) (same : ∀ j ∈ agenda, (f j).key = j.key ∧
    (f j).number = j.number ∧ (f j).duty.post? = j.duty.post?) :
    Has (agenda.map f) k n p ↔ agenda.Has k n p := by
  constructor
  · rintro ⟨j, hj, hk, hn, post⟩
    obtain ⟨i, hi, rfl⟩ := List.mem_map.mp hj
    obtain ⟨key, number, duty⟩ := same i hi
    exact ⟨i, hi, key ▸ hk, number ▸ hn, duty ▸ post⟩
  · rintro ⟨j, hj, hk, hn, post⟩
    obtain ⟨key, number, duty⟩ := same j hj
    exact ⟨f j, List.mem_map_of_mem hj, key.trans hk, number.trans hn, duty.trans post⟩

end Agenda

/-! ### The small operations on a cache -/

/-- What becomes of the agenda when a job is given up. -/
theorem agenda_abort (now : Time.Instant) (n : Nat) (c : Cache α) :
    (c.abort now n).agenda = c.agenda.remove n ∨
      ∃ j : Job, j.number = n ∧ j ∈ c.agenda ∧ ∃ producer call,
        (c.abort now n).agenda = c.agenda.remove n ++
          [{ j with duty := .release producer call, due := some now.elapsed, turn := now.turn }] := by
  unfold abort
  cases hj : c.agenda.find? n with
  | none =>
    refine .inl (List.filter_eq_self.mpr fun j hj' => ?_).symm
    simpa using List.find?_eq_none.mp hj j hj'
  | some j =>
    have number : j.number = n := by simpa using List.find?_some hj
    have listed : j ∈ c.agenda := List.mem_of_find?_eq_some hj
    dsimp only
    split
    · exact .inr ⟨j, number, listed, _, _, rfl⟩
    · exact .inl rfl

/-- Giving a job up takes its post off the agenda. -/
theorem has_abort : (c.abort now m).agenda.Has k n p ↔ c.agenda.Has k n p ∧ n ≠ m := by
  rcases agenda_abort now m c with h | ⟨j, rfl, -, producer, call, h⟩
  · rw [h, Agenda.has_remove]
  · rw [h, Agenda.has_append, Agenda.has_remove]
    simp [Duty.post?]

theorem numbered_abort (inv : c.agenda.Numbered c.begun) (m : Nat) :
    (c.abort now m).agenda.Numbered c.begun := by
  rcases agenda_abort now m c with h | ⟨j, rfl, listed, producer, call, h⟩
  · rw [h]
    exact inv.remove m
  · rw [h]
    exact (inv.remove _).append (Nat.le_refl _) (fun i hi => (Agenda.mem_remove.mp hi).2)
      (inv.begun j listed)

/-- Beginning a job puts its post on the agenda. -/
theorem has_spawn {duty : Duty} {due : Nat} : (c.spawn now k duty due).agenda.Has l n p ↔
    c.agenda.Has l n p ∨ k = l ∧ c.nextJob = n ∧ duty.post? = some p :=
  Agenda.has_append

theorem numbered_spawn (inv : c.agenda.Numbered c.begun) (k : Key) (duty : Duty) (due : Nat) :
    (c.spawn now k duty due).agenda.Numbered (c.begun + 1) :=
  inv.append (Nat.le_succ _) (fun i hi => Nat.ne_of_lt (Nat.lt_succ_of_le (inv.begun i hi)))
    (Nat.le_refl _)

theorem has_abort? {m : Option Nat} :
    (c.abort? now m).agenda.Has k n p ↔ c.agenda.Has k n p ∧ m ≠ some n := by
  cases m with
  | none => simp [abort?]
  | some m => rw [abort?, has_abort, ne_comm, ne_eq, ne_eq, Option.some.injEq]

theorem numbered_abort? (now : Time.Instant) (inv : c.agenda.Numbered c.begun) (m : Option Nat) :
    (c.abort? now m).agenda.Numbered c.begun := by
  cases m with
  | none => exact inv
  | some m => exact numbered_abort inv m

theorem agenda_stopTimer (timer : Option Timer) :
    (c.stopTimer now k timer).agenda = (c.abort? now (timer.map Timer.job)).agenda := by
  cases timer <;> rfl

theorem begun_stopTimer (timer : Option Timer) :
    (c.stopTimer now k timer).begun = c.begun := by
  cases timer with
  | none => rfl
  | some timer => rw [stopTimer, abort_eq]; rfl

/-! ### Answers to calls -/

/-- Calls that are answered keep their place among the jobs but for the order. -/
theorem mem_answered {waits : Job → Bool} {agenda : Agenda} {j : Job} :
    j ∈ Agenda.answered now waits agenda ↔ ∃ i ∈ agenda,
      j = if waits i then { i with due := some now.elapsed, turn := now.turn } else i := by
  simp only [Agenda.answered, List.mem_append, List.mem_filter, List.mem_map]
  constructor
  · rintro (⟨hj, stays⟩ | ⟨i, ⟨hi, waits⟩, rfl⟩)
    · exact ⟨j, hj, by simp_all⟩
    · exact ⟨i, hi, by rw [if_pos waits]⟩
  · rintro ⟨i, hi, rfl⟩
    by_cases h : waits i = true
    · exact .inr ⟨i, ⟨hi, h⟩, by rw [if_pos h]⟩
    · exact .inl (by simp_all)

theorem has_answered {waits : Job → Bool} {agenda : Agenda} :
    (Agenda.answered now waits agenda).Has k n p ↔ agenda.Has k n p := by
  have same (i : Job) : ∃ due turn,
      (if waits i then { i with due := some now.elapsed, turn := now.turn } else i) =
        { i with due, turn } := by
    split <;> exact ⟨_, _, rfl⟩
  constructor
  · rintro ⟨j, hj, hk, hn, post⟩
    obtain ⟨i, hi, rfl⟩ := mem_answered.mp hj
    obtain ⟨due, turn, h⟩ := same i
    rw [h] at hk hn post
    exact ⟨i, hi, hk, hn, post⟩
  · rintro ⟨i, hi, hk, hn, post⟩
    refine ⟨_, mem_answered.mpr ⟨i, hi, rfl⟩, ?_⟩
    obtain ⟨due, turn, h⟩ := same i
    rw [h]
    exact ⟨hk, hn, post⟩

theorem numbered_answered {waits : Job → Bool} {agenda : Agenda} {begun : Nat}
    (inv : agenda.Numbered begun) : (Agenda.answered now waits agenda).Numbered begun := by
  constructor
  · have order := (List.filter_append_perm (fun j => !waits j) agenda).map Job.number
    rw [Agenda.answered, List.map_append, List.map_map]
    rw [List.map_append] at order
    simp only [Bool.not_not] at order
    exact order.nodup_iff.mpr inv.distinct
  · intro j hj
    obtain ⟨i, hi, rfl⟩ := mem_answered.mp hj
    split <;> exact inv.begun i hi

end TaskWatch.Cache
