import TaskWatch.Time.Calendar

/-! The date of a day is a real one, and the day is counted back from it.

    An era is four centuries of 36 524 days and one day more; a century is 25 times four years of
    1461 days and one day less; and four years are 365 days each and one day more. The day more is
    the last of its last year, since a year begins in March here. -/

namespace TaskWatch.Time

/-- Where a day stands in the cycles of the calendar. -/
structure Cycles where
  era : Int
  century : Nat
  quartet : Nat
  place : Nat
  day : Nat

namespace Cycles

variable {w : Cycles}

/-- The day that no year but a leap year has, the last one before March. -/
def IsLeapDay (w : Cycles) : Prop :=
  w.day = 365 ∧ w.place = 3 ∧ (w.quartet < 24 ∨ w.century = 3)

/-- The cycles have such a day. -/
structure IsReal (w : Cycles) : Prop where
  century : w.century ≤ 3
  quartet : w.quartet ≤ 24
  place : w.place ≤ 3
  day : w.day < 365 ∨ w.IsLeapDay

/-- The year of the era. -/
def yearOfEra (w : Cycles) : Nat := 100 * w.century + 4 * w.quartet + w.place

/-- The day of the era. -/
def dayOfEra (w : Cycles) : Nat :=
  36524 * w.century + 1461 * w.quartet + 365 * w.place + w.day

/-- Days from 1 January 1970. -/
def days (w : Cycles) : Int := w.era * 146097 + w.dayOfEra - 719468

/-- The year that begins in March. -/
def year (w : Cycles) : Int := w.era * 400 + w.yearOfEra

/-- The months since March. -/
def monthFromMarch (w : Cycles) : Nat := (5 * w.day + 2) / 153

/-- The date. -/
def date (w : Cycles) : Date :=
  let month := if w.monthFromMarch < 10 then w.monthFromMarch + 3 else w.monthFromMarch - 9
  { year := if month ≤ 2 then w.year + 1 else w.year
    month
    day := w.day - (153 * w.monthFromMarch + 2) / 5 + 1 }

theorem IsReal.day_le (real : w.IsReal) : w.day ≤ 365 := by
  rcases real.day with early | ⟨last, -, -⟩ <;> omega

/-- Every day stands somewhere in the cycles. -/
theorem exists_days (d : Int) : ∃ w : Cycles, w.IsReal ∧ w.days = d := by
  obtain ⟨era, n, within, split⟩ : ∃ (era : Int) (n : Nat), n < 146097 ∧
      d = era * 146097 + n - 719468 :=
    ⟨(d + 719468) / 146097, ((d + 719468) % 146097).toNat, by omega, by omega⟩
  -- The last day of the era makes its last century longer than the others.
  obtain ⟨q, r, fewer, rest, parts⟩ : ∃ q r, q ≤ 3 ∧ (r < 36524 ∨ q = 3 ∧ r = 36524) ∧
      n = 36524 * q + r := ⟨min (n / 36524) 3, n - 36524 * min (n / 36524) 3, by omega⟩
  obtain ⟨z, s, place, day, last⟩ : ∃ z s, z ≤ 3 ∧ (s < 365 ∨ z = 3 ∧ s = 365) ∧
      r % 1461 = 365 * z + s :=
    ⟨min (r % 1461 / 365) 3, r % 1461 - 365 * min (r % 1461 / 365) 3, by omega⟩
  refine ⟨⟨era, q, r / 1461, z, s⟩, ⟨fewer, ?_, place, ?_⟩, ?_⟩
  · change r / 1461 ≤ 24
    omega
  · rcases day with early | ⟨third, leap⟩
    · exact .inl early
    · exact .inr ⟨leap, third, by simp only; omega⟩
  · simp only [days, dayOfEra]
    omega

/-! ### The date of a day -/

theorem IsReal.dayOfEra_lt (real : w.IsReal) : w.dayOfEra < 146097 := by
  obtain ⟨century, quartet, place, day⟩ := real
  unfold dayOfEra
  rcases day with early | ⟨last, third, leap⟩ <;> omega

/-- The year of a day of the era, by dividing the days that leap days do not add. -/
theorem IsReal.yearOfEra_eq (real : w.IsReal) :
    (w.dayOfEra - w.dayOfEra / 1460 + w.dayOfEra / 36524 - w.dayOfEra / 146096) / 365 =
      w.yearOfEra := by
  obtain ⟨era, q, c, z, s⟩ := w
  obtain ⟨century, quartet, place, day⟩ := real
  simp only [dayOfEra, yearOfEra, IsLeapDay] at century quartet place day ⊢
  by_cases final : q = 3 ∧ c = 24 ∧ z = 3 ∧ s = 365
  · obtain ⟨rfl, rfl, rfl, rfl⟩ := final
    rfl
  have centuries : (36524 * q + 1461 * c + 365 * z + s) / 36524 = q := by omega
  have eras : (36524 * q + 1461 * c + 365 * z + s) / 146096 = 0 := by omega
  have leaps : (36524 * q + 1461 * c + 365 * z + s) / 1460 =
      25 * q + c + (24 * q + c + 365 * z + s) / 1460 := by omega
  have more : (24 * q + c + 365 * z + s) / 1460 = 0 ∨
      (24 * q + c + 365 * z + s) / 1460 = 1 ∧ z = 3 ∧ 365 ≤ s + 24 * q + c := by omega
  rw [centuries, eras, leaps]
  rcases more with none | ⟨one, rfl, late⟩
  · rw [none]
    omega
  · rw [one]
    omega

theorem IsReal.yearOfEra_lt (real : w.IsReal) : w.yearOfEra < 400 := by
  obtain ⟨century, quartet, place, -⟩ := real
  unfold yearOfEra
  omega

/-- The days of the era before the year. -/
theorem IsReal.before_year (real : w.IsReal) :
    365 * w.yearOfEra + w.yearOfEra / 4 - w.yearOfEra / 100 + w.day = w.dayOfEra := by
  obtain ⟨century, quartet, place, -⟩ := real
  have fours : w.yearOfEra / 4 = 25 * w.century + w.quartet := by unfold yearOfEra; omega
  have hundreds : w.yearOfEra / 100 = w.century := by unfold yearOfEra; omega
  rw [fours, hundreds]
  unfold yearOfEra dayOfEra
  omega

theorem IsReal.ofDays (real : w.IsReal) : Date.ofDays w.days = w.date := by
  have within := real.dayOfEra_lt
  have era : (w.days + 719468) / 146097 = w.era := by unfold days; omega
  have day : ((w.days + 719468) % 146097).toNat = w.dayOfEra := by unfold days; omega
  have ofYear : w.dayOfEra - (365 * w.yearOfEra + w.yearOfEra / 4 - w.yearOfEra / 100) = w.day := by
    have before := real.before_year
    omega
  simp only [Date.ofDays, era, day, real.yearOfEra_eq, ofYear]
  rfl

/-! ### The months from March on -/

/-- The year after a leap day's is one that has 29 February. -/
theorem IsReal.leap (real : w.IsReal) (day : w.IsLeapDay) : isLeap (w.year + 1) = true := by
  obtain ⟨century, quartet, -, -⟩ := real
  obtain ⟨-, third, leap⟩ := day
  have four : (w.year + 1) % 4 = 0 := by unfold year yearOfEra; omega
  have hundred : (w.year + 1) % 100 ≠ 0 ∨ (w.year + 1) % 400 = 0 := by
    unfold year yearOfEra
    omega
  simpa [isLeap, four] using hundred

theorem IsReal.monthFromMarch_le (real : w.IsReal) : w.monthFromMarch ≤ 11 := by
  have le := real.day_le
  unfold monthFromMarch
  omega

/-- The month of the calendar, so many months after March. -/
def monthOf (m : Nat) : Nat := if m < 10 then m + 3 else m - 9

/-- The days from 1 March to the first of the month. -/
def beforeMonth (m : Nat) : Nat := (153 * m + 2) / 5

theorem within_month (w : Cycles) : beforeMonth w.monthFromMarch ≤ w.day ∧
    w.day < beforeMonth (w.monthFromMarch + 1) := by
  unfold monthFromMarch beforeMonth
  omega

/-- The months but February are as long as the days between their firsts. -/
theorem daysInMonth_monthOf (year : Int) {m : Nat} (early : m < 11) :
    daysInMonth year (monthOf m) = beforeMonth (m + 1) - beforeMonth m := by
  have anyYear : daysInMonth year (monthOf m) = daysInMonth 0 (monthOf m) := by
    have notFebruary : monthOf m ≠ 2 := by unfold monthOf; split <;> omega
    simp [daysInMonth, notFebruary]
  have listed : ∀ m < 11, daysInMonth 0 (monthOf m) = beforeMonth (m + 1) - beforeMonth m := by
    decide
  rw [anyYear, listed m early]

theorem date_eq (w : Cycles) : w.date =
    { year := if monthOf w.monthFromMarch ≤ 2 then w.year + 1 else w.year
      month := monthOf w.monthFromMarch
      day := w.day - beforeMonth w.monthFromMarch + 1 } := rfl

theorem monthOf_within {m : Nat} (le : m ≤ 11) : 1 ≤ monthOf m ∧ monthOf m ≤ 12 := by
  unfold monthOf
  split <;> omega

/-- The day is one that its month has. -/
theorem IsReal.day_le_daysInMonth (real : w.IsReal) :
    w.day - beforeMonth w.monthFromMarch + 1 ≤
      daysInMonth w.date.year (monthOf w.monthFromMarch) := by
  obtain ⟨begun, ends⟩ := within_month w
  rcases Nat.lt_or_eq_of_le real.monthFromMarch_le with early | february
  · rw [daysInMonth_monthOf _ early]
    omega
  · have year : w.date.year = w.year + 1 := by simp [date_eq, february, monthOf]
    rw [year, february]
    rw [february] at begun
    change w.day - 337 + 1 ≤ if isLeap (w.year + 1) then 29 else 28
    rcases real.day with early | leapDay
    · split <;> omega
    · have last := leapDay.1
      rw [if_pos (real.leap leapDay)]
      omega

theorem IsReal.date_isReal (real : w.IsReal) : w.date.isReal = true := by
  obtain ⟨first, last⟩ := monthOf_within real.monthFromMarch_le
  have fits := real.day_le_daysInMonth
  simp only [Date.isReal, Bool.and_eq_true, decide_eq_true_eq]
  exact ⟨⟨⟨first, last⟩, Nat.le_add_left ..⟩, fits⟩

theorem IsReal.toDays_date (real : w.IsReal) : w.date.toDays = w.days := by
  have fewer := real.monthFromMarch_le
  have year : (if w.date.month ≤ 2 then w.date.year - 1 else w.date.year) = w.year := by
    simp only [date_eq]
    split <;> omega
  have month : (if w.date.month > 2 then w.date.month - 3 else w.date.month + 9) =
      w.monthFromMarch := by
    rw [date_eq]
    simp only [monthOf]
    split <;> split <;> omega
  have day : beforeMonth w.monthFromMarch + w.date.day - 1 = w.day := by
    have begun := (within_month w).1
    rw [date_eq]
    simp only
    omega
  have before := real.before_year
  have within := real.yearOfEra_lt
  have era : w.year / 400 = w.era := by unfold Cycles.year; omega
  have yearOfEra : w.year % 400 = w.yearOfEra := by unfold Cycles.year; omega
  have dayOfYear : (153 * w.monthFromMarch + 2) / 5 + w.date.day - 1 = w.day := day
  simp only [Date.toDays, year, month, era, yearOfEra, dayOfYear]
  unfold days
  omega

end Cycles

namespace Date

/-- The date of a day is one of the calendar. -/
theorem isReal_ofDays (d : Int) : (ofDays d).isReal = true := by
  obtain ⟨w, real, rfl⟩ := Cycles.exists_days d
  rw [real.ofDays]
  exact real.date_isReal

/-- The day is counted back from its date. -/
theorem toDays_ofDays (d : Int) : (ofDays d).toDays = d := by
  obtain ⟨w, real, rfl⟩ := Cycles.exists_days d
  rw [real.ofDays]
  exact real.toDays_date

example : ofDays 11016 = ⟨2000, 2, 29⟩ := by decide

end Date

end TaskWatch.Time
