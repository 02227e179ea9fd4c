import Mathlib.Algebra.Order.Floor.Div

/-! The rhythm of a query that is polled.

    A timer ticks at every interval, and the first fetch is started without a tick. A tick at which the
    last fetch is still in flight is let pass. So if every fetch takes the same time, the next is started
    after as many ticks each time: those are the beats. -/

namespace TaskWatch.Cache

/-- When polling began, at which interval, and how long each fetch takes: no time, or not just as long as
    it is to a tick. -/
structure Rhythm where
  start : Nat
  interval : Nat
  delay : Nat
  periodic : 0 < interval
  apart : delay = 0 ∨ ¬ interval ∣ delay

namespace Rhythm

variable (ρ : Rhythm) {n a now : Nat}

/-- From how many ticks to the next a fetch is started. -/
def beats : Nat := max 1 (ρ.delay ⌈/⌉ ρ.interval)

/-- How long it is from one fetch to the next. -/
def round : Nat := ρ.interval * ρ.beats

/-- When the timer ticks. -/
def tick (n : Nat) : Nat := ρ.start + n * ρ.interval

/-- When a fetch is started. -/
def fetch (a : Nat) : Nat := ρ.start + a * ρ.round

/-- When the fetches are started up to this one. -/
def fetches (a : Nat) : List Nat := (List.range (a + 1)).map ρ.fetch

theorem beats_pos : 0 < ρ.beats := Nat.lt_of_lt_of_le Nat.one_pos (Nat.le_max_left _ _)

/-- As many ticks are as long as a fetch takes if they are beats enough. -/
theorem beats_le_iff : ρ.beats ≤ n ↔ 0 < n ∧ ρ.delay ≤ ρ.interval * n := by
  rw [beats, Nat.max_le, ceilDiv_le_iff_le_mul ρ.periodic]
  rfl

theorem tick_succ (n : Nat) : ρ.tick (n + 1) = ρ.tick n + ρ.interval := by
  rw [tick, tick, Nat.add_mul, Nat.one_mul, Nat.add_assoc]

/-- After a fetch so many beats are ticked. -/
theorem tick_beats (a m : Nat) : ρ.tick (a * ρ.beats + m) = ρ.fetch a + ρ.interval * m := by
  rw [tick, fetch, round, Nat.add_mul, Nat.mul_comm m, Nat.mul_left_comm a, Nat.mul_comm (a * ρ.beats),
    Nat.add_assoc]

theorem fetch_succ (a : Nat) : ρ.fetch (a + 1) = ρ.tick ((a + 1) * ρ.beats) := by
  have beat := ρ.tick_beats (a + 1) 0
  rw [Nat.add_zero, Nat.mul_zero, Nat.add_zero] at beat
  exact beat.symm

theorem fetches_zero : ρ.fetches 0 = [ρ.start] := by
  simp [fetches, fetch]

theorem fetches_succ (a : Nat) : ρ.fetches (a + 1) = ρ.fetches a ++ [ρ.fetch (a + 1)] := by
  rw [fetches, List.range_succ, List.map_append]
  rfl

/-- The next tick is so many after the fetch started last. -/
theorem since_fetch (after : a * ρ.beats < n) (within : n ≤ (a + 1) * ρ.beats) :
    ∃ m, n = a * ρ.beats + m ∧ 0 < m ∧ m ≤ ρ.beats := by
  obtain ⟨m, rfl⟩ := Nat.exists_eq_add_of_le (Nat.le_of_lt after)
  rw [Nat.add_mul, Nat.one_mul] at within
  exact ⟨m, rfl, by omega, by omega⟩

/-- A tick that comes while the last fetch is in flight is followed by another before the next fetch. -/
theorem skips (after : a * ρ.beats < n) (within : n ≤ (a + 1) * ρ.beats)
    (early : ρ.tick n ≤ ρ.fetch a + ρ.delay) : n + 1 ≤ (a + 1) * ρ.beats := by
  obtain ⟨m, rfl, some, most⟩ := ρ.since_fetch after within
  rw [tick_beats, Nat.add_le_add_iff_left] at early
  have ticked : 0 < ρ.interval * m := Nat.mul_pos ρ.periodic some
  have more : m ≠ ρ.beats := by
    intro last
    have enough : ρ.delay ≤ ρ.interval * m := (ρ.beats_le_iff.mp (Nat.le_of_eq last.symm)).2
    have just : ρ.delay = ρ.interval * m := Nat.le_antisymm enough early
    rcases ρ.apart with none | other
    · omega
    · exact other (just ▸ Nat.dvd_mul_right _ _)
  rw [Nat.add_mul, Nat.one_mul]
  omega

/-- A tick that comes when the last fetch is over starts the next. -/
theorem starts_next (after : a * ρ.beats < n) (within : n ≤ (a + 1) * ρ.beats)
    (past : ρ.fetch a + ρ.delay ≤ ρ.tick n) : n = (a + 1) * ρ.beats := by
  obtain ⟨m, rfl, some, most⟩ := ρ.since_fetch after within
  rw [tick_beats, Nat.add_le_add_iff_left] at past
  have enough : ρ.beats ≤ m := ρ.beats_le_iff.mpr ⟨some, past⟩
  rw [Nat.add_mul, Nat.one_mul]
  omega

/-- How many fetches were started is told by how long it has been. -/
theorem count (after : a * ρ.beats < n) (within : n ≤ (a + 1) * ρ.beats) (ahead : now < ρ.tick n)
    (behind : ρ.tick n ≤ now + ρ.interval) : (now - ρ.start) / ρ.round = a := by
  obtain ⟨m, rfl⟩ := Nat.exists_eq_add_of_lt (Nat.zero_lt_of_lt after)
  rw [Nat.zero_add] at after within ahead behind
  rw [tick_succ] at ahead behind
  unfold tick at ahead behind
  have ticked : (now - ρ.start) / ρ.interval = m :=
    Nat.div_eq_of_lt_le (by omega) (by rw [Nat.add_mul, Nat.one_mul]; omega)
  rw [round, ← Nat.div_div_eq_div_mul, ticked]
  exact Nat.div_eq_of_lt_le (Nat.le_of_lt_succ after) within

end Rhythm

end TaskWatch.Cache
