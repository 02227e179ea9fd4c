import TaskWatch.Proofs.Text.Digits
import TaskWatch.Proofs.Time.Calendar
import TaskWatch.Time.Rfc3339

/-! A point of time is read back from its text.

    Each part of the text is read by its own reader, which leaves what follows the part. The text
    has a fixed width up to the fraction, so no reader looks further than its part. -/

namespace TaskWatch.Time

open Text

variable {rest ds : List Char} {n k : Nat}

/-! ### Parts of the text -/

theorem isBlank_of_isDigit {c : Char} (digit : isDigit c = true) : isBlank c = false := by
  obtain ⟨least, most⟩ : '0' ≤ c ∧ c ≤ '9' := by simpa [isDigit] using digit
  have least : 48 ≤ c.toNat := least
  have most : c.toNat ≤ 57 := most
  simp only [isBlank]
  simp
  omega

/-- No blank stands before digits. -/
theorem trimStart_digits (digits : AllDigits ds) (some : ds ≠ []) :
    trimStart (ds ++ rest) = ds ++ rest := by
  obtain ⟨c, cs, rfl⟩ := List.exists_cons_of_ne_nil some
  exact List.dropWhile_cons_of_neg (by simp [isBlank_of_isDigit (digits c (.head _))])

/-- A run of digits is taken up to the most that may be, or up to what is not a digit. -/
theorem takeNumber_digits (digits : AllDigits ds) (some : ds ≠ []) (within : ds.length ≤ k)
    (stop : ds.length = k ∨ ∀ c ∈ rest.head?, isDigit c = false)
    (small : number ds ≤ largestNumber) :
    takeNumber (.some k) (ds ++ rest) = .ok (number ds, rest) := by
  have run : ((ds ++ rest).take k).takeWhile isDigit = ds := by
    rw [List.take_append, List.take_of_length_le within]
    refine digits.takeWhile fun c first => ?_
    rcases stop with full | other
    · simp [full] at first
    · rw [List.head?_take] at first
      split at first
      · simp at first
      · exact other c first
  obtain ⟨c, cs, rfl⟩ := List.exists_cons_of_ne_nil some
  have first := digits c (.head _)
  simp only [List.cons_append] at run ⊢
  simp only [takeNumber, first, if_true, run, if_neg (Nat.not_lt.mpr small)]
  rw [← List.cons_append, List.drop_left]

theorem padded_ne_nil (fits : n < Numeric.tenTo k) (wide : 0 < k) : (padded k n).toList ≠ [] := by
  intro nil
  have length := length_padded fits wide
  rw [nil] at length
  exact absurd length (Nat.ne_of_lt wide)

theorem takeNumber_padded {most : Nat} (fits : n < Numeric.tenTo k) (wide : 0 < k) (narrow : k ≤ most)
    (few : most ≤ 9) (stop : k = most ∨ ∀ c ∈ rest.head?, isDigit c = false) :
    takeNumber (.some most) ((padded k n).toList ++ rest) = .ok (n, rest) := by
  have length := length_padded fits wide
  have small : number (padded k n).toList ≤ largestNumber := by
    rw [number_padded]
    have bound : Numeric.tenTo k ≤ 1000000000 :=
      Nat.pow_le_pow_right (by decide) (Nat.le_trans narrow few)
    have largest : largestNumber = 9223372036854775807 := rfl
    rw [largest]
    omega
  rw [← length] at narrow stop
  rw [takeNumber_digits (allDigits_padded k n) (padded_ne_nil fits wide) narrow stop small,
    number_padded]

theorem takePart_padded {least most : Nat} (above : least ≤ n) (below : n ≤ most)
    (few : most < 100) :
    takePart least most ((padded 2 n).toList ++ rest) = .ok (n, rest) := by
  have fits : n < 100 := by omega
  rw [takePart, trimStart_digits (allDigits_padded 2 n) (padded_ne_nil fits (by decide)),
    takeNumber_padded fits (by decide) (Nat.le_refl 2) (by decide) (.inl rfl)]
  exact if_pos (by simp [above, below])

theorem fitsWord_of_le (fits : n ≤ 9999) : Numeric.fitsWord 32 (n : Int) = true := by
  have bound : Numeric.twoTo (32 - 1) = 2147483648 := rfl
  simp only [Numeric.fitsWord, Bool.and_eq_true, decide_eq_true_eq]
  rw [bound]
  omega

theorem ok_bind {ε α β : Type} (a : α) (f : α → Except ε β) : (Except.ok a >>= f) = f a := rfl

theorem takeYear_padded (fits : n ≤ 9999) :
    takeYear ((padded 4 n).toList ++ rest) = .ok ((n : Int), rest) := by
  have within : n < 10000 := by omega
  have taken : takeNumber (.some 4) ((padded 4 n).toList ++ rest) = .ok (n, rest) :=
    takeNumber_padded within (by decide) (Nat.le_refl 4) (by decide) (.inl rfl)
  have shown : (padded 4 n).toList ≠ [] := padded_ne_nil within (by decide)
  obtain ⟨c, cs, split⟩ := List.exists_cons_of_ne_nil shown
  have digit : isDigit c = true := allDigits_padded 4 n c (split ▸ .head _)
  have notMinus : c ≠ '-' := by rintro rfl; exact absurd digit (by decide)
  have notPlus : c ≠ '+' := by rintro rfl; exact absurd digit (by decide)
  rw [takeYear, trimStart_digits (allDigits_padded 4 n) shown]
  rw [split, List.cons_append] at taken ⊢
  split
  · rename_i first
    exact absurd (List.cons.inj first).1 notMinus
  · rename_i first
    exact absurd (List.cons.inj first).1 notPlus
  · rw [taken, ok_bind]
    dsimp only
    rw [pure_bind, if_pos (fitsWord_of_le fits)]
    rfl

theorem takeMark_cons {mark : Char} (shown : isBlank mark = false) :
    takeMark mark (mark :: rest) = .ok rest := by
  have start : trimStart (mark :: rest) = mark :: rest :=
    List.dropWhile_cons_of_neg (by simp [shown])
  simp [takeMark, start]

/-- A fraction counts for as much as if zeros filled it up to nine digits. -/
theorem takeFraction_padded (fits : n < Numeric.tenTo k) (wide : 0 < k) (narrow : k ≤ 9)
    (stop : ∀ c ∈ rest.head?, isDigit c = false) :
    takeFraction ('.' :: ((padded k n).toList ++ rest)) = .ok (n * Numeric.tenTo (9 - k), rest) := by
  have taken := takeNumber_padded fits wide narrow (Nat.le_refl 9) (.inr stop)
  have width : ((padded k n).toList ++ rest).length - rest.length = k := by
    rw [List.length_append, length_padded fits wide, Nat.add_sub_cancel]
  have none : rest.dropWhile isDigit = rest := by
    cases rest with
    | nil => rfl
    | cons c rest => exact List.dropWhile_cons_of_neg (by simp [stop c rfl])
  simp only [takeFraction]
  rw [taken, ok_bind]
  dsimp only
  rw [width, none]
  rfl

/-- No month of the calendar is after the twelfth, and no day of a month after the 31st. -/
theorem Date.within_of_isReal {d : Date} (real : d.isReal = true) :
    (1 ≤ d.month ∧ d.month ≤ 12) ∧ 1 ≤ d.day ∧ d.day ≤ 31 := by
  obtain ⟨⟨months, first⟩, last⟩ : ((1 ≤ d.month ∧ d.month ≤ 12) ∧ 1 ≤ d.day) ∧
      d.day ≤ daysInMonth d.year d.month := by
    simpa [Date.isReal] using real
  have longest : daysInMonth d.year d.month ≤ 31 := by
    unfold daysInMonth
    split
    · split <;> decide
    · split <;> decide
  exact ⟨months, first, Nat.le_trans last longest⟩

namespace Stamp

variable {t : Stamp}

/-- The time of day is one that a clock shows, second 60 included, and the year has four digits. Left
    out are leap seconds after another second than 59. No clock shows them and no text is read as one,
    but they can be built by setting the nanoseconds of a time (`with_nanosecond`); their text is not
    read back as what they are. -/
structure IsReal (t : Stamp) : Prop where
  second : t.second < 86400
  nano : t.nano < 1000000000 ∨ t.second % 60 = 59 ∧ t.nano < 2000000000
  year : 0 ≤ t.date.year ∧ t.date.year ≤ 9999

/-- A fraction is read back from its first digits, if all others are zero. -/
theorem takeFraction_digits (wide : 0 < k) (narrow : k ≤ 9) {m : Nat} (fits : m < Numeric.tenTo k)
    (scaled : m * Numeric.tenTo (9 - k) = n) :
    takeFraction (("." ++ padded k m).toList ++ ['Z']) = .ok (n, ['Z']) := by
  have stop : ∀ c ∈ ['Z'].head?, isDigit c = false := fun c first => Option.some.inj first ▸ rfl
  have point : ".".toList = ['.'] := rfl
  rw [String.toList_append, point, List.singleton_append, List.cons_append,
    takeFraction_padded fits wide narrow stop, scaled]

/-- The fraction is read back whatever number of digits shows it. -/
theorem takeFraction_fractionText (t : Stamp) :
    takeFraction (t.fractionText.toList ++ ['Z']) = .ok (t.fraction, ['Z']) := by
  have small : t.fraction < 1000000000 := Nat.mod_lt _ (by decide)
  unfold fractionText
  dsimp only
  split
  · rename_i zero
    rw [zero]
    rfl
  split
  · rename_i millis
    have fits : t.fraction / 1000000 < 1000 := by omega
    have scaled : t.fraction / 1000000 * 1000000 = t.fraction := by omega
    exact takeFraction_digits (by decide) (by decide) fits scaled
  split
  · rename_i micros
    have fits : t.fraction / 1000 < 1000000 := by omega
    have scaled : t.fraction / 1000 * 1000 = t.fraction := by omega
    exact takeFraction_digits (by decide) (by decide) fits scaled
  · exact takeFraction_digits (by decide) (by decide) small (Nat.mul_one _)

/-- The parts of the text in their order. -/
theorem IsReal.toList_text (real : t.IsReal) : t.text.toList =
    (padded 4 t.date.year.toNat).toList ++ '-' :: ((padded 2 t.date.month).toList ++ '-' ::
      ((padded 2 t.date.day).toList ++ 'T' :: ((padded 2 t.clock.1).toList ++ ':' ::
        ((padded 2 t.clock.2.1).toList ++ ':' :: ((padded 2 t.clock.2.2).toList ++
          (t.fractionText.toList ++ ['Z'])))))) := by
  have year : yearText t.date.year = padded 4 t.date.year.toNat := if_pos (by simpa using real.year)
  have dash : "-".toList = ['-'] := rfl
  have colon : ":".toList = [':'] := rfl
  have ends : "T".toList = ['T'] ∧ "Z".toList = ['Z'] := ⟨rfl, rfl⟩
  simp only [text, secondsText, dateText, clockText, year, dash, colon, ends,
    String.toList_append, List.append_assoc, List.cons_append, List.nil_append]

/-- The stamp is put together again from the day and the clock. -/
theorem IsReal.of_clock (real : t.IsReal) : Stamp.minusSeconds
    { day := t.date.toDays
      second := t.clock.1 * 3600 + t.clock.2.1 * 60 +
        (if t.clock.2.2 == 60 then 59 else t.clock.2.2)
      nano := if t.clock.2.2 == 60 then t.fraction + 1000000000 else t.fraction } 0 = t := by
  obtain ⟨day, second, nano⟩ := t
  obtain ⟨within, fits, -⟩ := real
  have sameDay : (date ⟨day, second, nano⟩).toDays = day := Date.toDays_ofDays day
  simp only at within fits
  simp only [clock, fraction, sameDay, beq_iff_eq, minusSeconds, mk.injEq]
  rcases fits with ordinary | ⟨last, leap⟩
  · have shown : second % 60 + nano / 1000000000 ≠ 60 := by omega
    rw [if_neg shown, if_neg shown]
    omega
  · rw [last]
    split <;> omega

/-- A point of time is read back from its text. -/
theorem IsReal.read_text (real : t.IsReal) : Stamp.read t.text = .ok t := by
  have date : t.date.isReal = true := Date.isReal_ofDays t.day
  obtain ⟨⟨january, december⟩, first, last⟩ := Date.within_of_isReal date
  have year : ((t.date.year.toNat : Nat) : Int) = t.date.year := Int.toNat_of_nonneg real.year.1
  have few : t.date.year.toNat ≤ 9999 := by have := real.year; omega
  have reach : yearInReach t.date.year = true := by
    have bounds := real.year
    simp [yearInReach]
    omega
  have hour : t.clock.1 ≤ 23 := by have := real.second; simp only [clock]; omega
  have minute : t.clock.2.1 ≤ 59 := by simp only [clock]; omega
  have second : t.clock.2.2 ≤ 60 := by have := real.nano; simp only [clock]; omega
  have offset : takeOffset (trimStart ['Z']) = .ok (0, []) := by rfl
  have whole : (trimStart []).isEmpty = true := rfl
  simp only [Stamp.read, real.toList_text, ok_bind, pure_bind, takeYear_padded few,
    takeMark_cons (show isBlank '-' = false by decide),
    takeMark_cons (show isBlank ':' = false by decide),
    takePart_padded january december (by decide), takePart_padded first last (by decide),
    takePart_padded (Nat.zero_le _) hour (by decide),
    takePart_padded (Nat.zero_le _) minute (by decide),
    takePart_padded (Nat.zero_le _) second (by decide), takeFraction_fractionText, offset, whole,
    year, reach, date, real.of_clock, decide_true, Bool.true_or, Bool.and_self, if_true,
    show (-86400 : Int) < 0 ∧ (0 : Int) < 86400 by decide]
  rfl

example : text ⟨17166, 86399, 1500000000⟩ = "2016-12-31T23:59:60.500Z" := by decide +kernel

end Stamp

end TaskWatch.Time
