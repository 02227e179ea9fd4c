import TaskWatch.Screen.Area
import Mathlib.Data.Nat.PSub
import Mathlib.Data.Rat.Cast.Order
import Mathlib.Tactic.Linarith
import Mathlib.Tactic.Ring

/-! A rectangle in the middle of another.

    Where all that is wanted of a length fits, the parts lie end to end. Where a length is divided in
    proportion, a boundary is off by half a cell at most. So the rectangle in the middle never leaves the
    one it is put into, and what is left of it and right of it differ by a hundredth and a cell at most.

    The rectangle is worked out for any way to take one length from another that is right where there is
    enough to take from (`Honest`). One that ends at zero and one that fails below zero then come to the
    same, so nothing ever falls below zero. -/

namespace TaskWatch.Screen

/-! ### Boundaries -/

/-- A quotient that is rounded is off by a half at most. -/
theorem abs_nearest_sub_le (n : Nat) {d : Nat} (positive : 0 < d) :
    |(nearest n d : ℚ) - n / d| ≤ 1 / 2 := by
  have below : nearest n d * (2 * d) ≤ 2 * n + d := Nat.div_mul_le_self _ _
  have above : 2 * n + d < nearest n d * (2 * d) + 2 * d := Nat.lt_div_mul_add (by omega)
  have below' : (nearest n d : ℚ) * (2 * d) ≤ 2 * n + d := by exact_mod_cast below
  have above' : (2 * n + d : ℚ) < nearest n d * (2 * d) + 2 * d := by exact_mod_cast above
  have positive' : (0 : ℚ) < d := by exact_mod_cast positive
  have whole : (n / d : ℚ) * d = n := div_mul_cancel₀ _ positive'.ne'
  rw [abs_le]
  constructor
  · refine le_of_mul_le_mul_right ?_ positive'
    linarith
  · refine le_of_mul_le_mul_right ?_ positive'
    linarith

theorem nearest_mono {m n : Nat} (le : m ≤ n) (d : Nat) : nearest m d ≤ nearest n d :=
  Nat.div_le_div_right (by omega)

/-- A whole number stays what it is. -/
theorem nearest_mul (n : Nat) {d : Nat} (positive : 0 < d) : nearest (n * d) d = n := by
  refine Nat.div_eq_of_lt_le ?_ ?_
  · calc n * (2 * d) = 2 * (n * d) := by ring
      _ ≤ 2 * (n * d) + d := Nat.le_add_right _ _
  · calc 2 * (n * d) + d < 2 * (n * d) + 2 * d := by omega
      _ = (n + 1) * (2 * d) := by ring

theorem nearest_one (n : Nat) : nearest n 1 = n := by
  simpa using nearest_mul n Nat.one_pos

/-! ### Differences -/

section

variable {m : Type → Type} [Monad m] {minus : Nat → Nat → m Nat}

/-- Where there is enough to take from, the difference is the right one. -/
def Honest (minus : Nat → Nat → m Nat) : Prop := ∀ n k, k ≤ n → minus n k = pure (n - k)

theorem honest_shorten : Honest shorten := fun _ _ _ => rfl

theorem honest_psub : Honest Nat.psub := fun _ _ enough => Nat.psub_eq_sub enough

/-- Where all that is wanted fits, everybody gets it, and the parts lie end to end. -/
theorem divideBy_of_fits [LawfulMonad m] (honest : Honest minus) {length : Nat} {wants : List Want}
    (fits : total (wants.map Want.least) ≤ length) :
    divideBy minus length wants =
      pure (boundaries 1 0 (wants.map (Want.size (length - total (wants.map Want.least))))) := by
  rw [divideBy, sizesBy, if_pos fits, honest _ _ fits, pure_bind, pure_bind]

end

namespace Area

variable {a : Area} {percent height first last : Nat}

/-- One rectangle lies within another. -/
structure Inside (r a : Area) : Prop where
  left : a.x ≤ r.x
  right : r.x + r.width ≤ a.x + a.width
  top : a.y ≤ r.y
  bottom : r.y + r.height ≤ a.y + a.height

/-! ### Columns -/

theorem right_eq (right : a.x + a.width ≤ most) : a.right = a.x + a.width := by
  unfold Area.right
  omega

theorem bottom_eq (bottom : a.y + a.height ≤ most) : a.bottom = a.y + a.height := by
  unfold Area.bottom
  omega

/-- Its columns between two hundredths of its width. -/
def between (a : Area) (first last : Nat) : Area :=
  { a with
    x := a.x + nearest (first * a.width) 100
    width := nearest (last * a.width) 100 - nearest (first * a.width) 100 }

/-- The columns between two hundredths begin no later than they end, and end within. -/
theorem nearest_hundredths (width : Nat) (order : first ≤ last) (within : last ≤ 100) :
    nearest (first * width) 100 ≤ nearest (last * width) 100 ∧ nearest (last * width) 100 ≤ width := by
  refine ⟨nearest_mono (Nat.mul_le_mul_right _ order) 100, ?_⟩
  calc nearest (last * width) 100 ≤ nearest (width * 100) 100 :=
        nearest_mono (by rw [Nat.mul_comm]; exact Nat.mul_le_mul_left _ within) 100
    _ = width := nearest_mul _ (by decide)

theorem between_inside (order : first ≤ last) (within : last ≤ 100) :
    (a.between first last).Inside a := by
  obtain ⟨begins, ends⟩ := nearest_hundredths a.width order within
  exact ⟨Nat.le_add_right _ _, by simp only [between]; omega, Nat.le_refl _, Nat.le_refl _⟩

/-- If the hundredths left over on both sides differ by one at most, the columns left over differ by a
    hundredth of the width at most, and by half a cell more for each of the two boundaries. -/
theorem abs_margins_le (order : first ≤ last) (within : last ≤ 100)
    (noless : first + last ≤ 100) (nomore : 100 ≤ first + last + 1) :
    |((a.between first last).x - a.x : ℚ) -
        ((a.x + a.width) - ((a.between first last).x + (a.between first last).width))| ≤
      a.width / 100 + 1 := by
  obtain ⟨begins, -⟩ := nearest_hundredths a.width order within
  have left := abs_le.mp (abs_nearest_sub_le (first * a.width) (d := 100) (by decide))
  have right' := abs_le.mp (abs_nearest_sub_le (last * a.width) (d := 100) (by decide))
  have noless' : (first + last : ℚ) * a.width ≤ 100 * a.width := by
    exact_mod_cast Nat.mul_le_mul_right a.width noless
  have nomore' : (100 : ℚ) * a.width ≤ (first + last + 1) * a.width := by
    exact_mod_cast Nat.mul_le_mul_right a.width nomore
  simp only [between]
  push_cast [Nat.cast_sub begins] at left right' ⊢
  rw [abs_le]
  constructor <;> linarith

/-! ### The middle -/

/-- The rows of the rectangle in the middle. -/
def middleRows (height : Nat) (a : Area) : Area :=
  { a with y := a.y + (a.height - min height a.height) / 2, height := min height a.height }

theorem middleRows_inside : (a.middleRows height).Inside a :=
  ⟨Nat.le_refl _, Nat.le_refl _, Nat.le_add_right _ _, by simp only [middleRows]; omega⟩

section

variable {m : Type → Type} [Monad m] [LawfulMonad m] {minus : Nat → Nat → m Nat}

theorem rowsBy_eq (honest : Honest minus) (order : first ≤ last) :
    a.rowsBy minus first last = pure { a with y := a.y + first, height := last - first } := by
  rw [rowsBy, honest _ _ order, pure_bind]

theorem hundredthsBy_eq (honest : Honest minus) (right : a.x + a.width ≤ most)
    (order : first ≤ last) (within : last ≤ 100) :
    a.hundredthsBy minus first last = pure (a.between first last) := by
  have forth : a.x ≤ a.right := by
    rw [right_eq right]
    exact Nat.le_add_right _ _
  have width : a.right - a.x = a.width := by rw [right_eq right, Nat.add_sub_cancel_left]
  have begins := (nearest_hundredths a.width order within).1
  rw [hundredthsBy, honest _ _ forth, pure_bind, width, columnsBy, honest _ _ begins, pure_bind,
    between]

/-- Some rows above, some in the middle, and the rest below. -/
theorem stackBy_of_fits (honest : Honest minus) (bottom : a.y + a.height ≤ most) {above : Nat}
    (fits : above + height ≤ a.height) :
    ∃ before after, a.stackBy minus [.exactly above, .exactly height, .rest 0] =
      pure [before, { a with y := a.y + above, height }, after] := by
  have forth : a.y ≤ a.bottom := by
    rw [bottom_eq bottom]
    exact Nat.le_add_right _ _
  have rows : a.bottom - a.y = a.height := by rw [bottom_eq bottom, Nat.add_sub_cancel_left]
  have least : total ([.exactly above, .exactly height, .rest 0].map Want.least) = above + height := by
    simp [total, Want.least]
  have parts := divideBy_of_fits honest (least ▸ fits)
  rw [least] at parts
  simp only [List.map_cons, List.map_nil, Want.size, boundaries, nearest_one, Nat.zero_add,
    Nat.add_sub_cancel' fits] at parts
  refine ⟨{ a with y := a.y + 0, height := above - 0 },
    { a with y := a.y + (above + height), height := a.height - (above + height) }, ?_⟩
  rw [stackBy, honest _ _ forth, pure_bind, rows, parts, pure_bind]
  simp only [List.mapM_cons, List.mapM_nil, rowsBy_eq honest (Nat.zero_le above),
    rowsBy_eq honest (Nat.le_add_right above height), rowsBy_eq honest fits, pure_bind,
    Nat.add_sub_cancel_left]

/-- However lengths are subtracted, as long as that is honest: the rectangle has the columns and the rows
    in the middle. -/
theorem centeredBy_eq (honest : Honest minus) (right : a.x + a.width ≤ most)
    (bottom : a.y + a.height ≤ most) (share : percent ≤ 100) (height : Nat) :
    a.centeredBy minus percent height =
      pure ((a.middleRows height).between ((100 - percent) / 2) ((100 - percent) / 2 + percent)) := by
  have fits : (a.height - min height a.height) / 2 + min height a.height ≤ a.height := by omega
  obtain ⟨before, after, parts⟩ := stackBy_of_fits honest bottom fits
  have within : (100 - percent) / 2 + percent ≤ 100 := by omega
  have columns := hundredthsBy_eq (a := a.middleRows height) honest right
    (Nat.le_add_right ((100 - percent) / 2) percent) within
  rw [centeredBy, honest _ _ (Nat.min_le_right height a.height), pure_bind, honest _ _ share, pure_bind,
    parts, pure_bind]
  exact columns

end

/-- The rectangle in the middle, if no difference on the way falls below zero. -/
def centered? (percent height : Nat) (a : Area) : Option Area := a.centeredBy Nat.psub percent height

/-- The rectangle in the middle of another one lies within it, whatever its share of the width is. It has
    the rows that are asked for, or all there are, and half of what is left, rounded down, is above it. What
    is left of it and right of it differ by a hundredth of the width and a cell at most. No subtraction on
    the way goes below zero. -/
theorem centered_fits (a : Area) (percent height : Nat) (right : a.x + a.width ≤ most)
    (bottom : a.y + a.height ≤ most) (share : percent ≤ 100) :
    let r := a.centered percent height
    r.Inside a ∧ r.height = min height a.height ∧ r.y = a.y + (a.height - r.height) / 2 ∧
      |(r.x - a.x : ℚ) - ((a.x + a.width) - (r.x + r.width))| ≤ a.width / 100 + 1 ∧
      a.centered? percent height = some r := by
  intro r
  have eq : r = (a.middleRows height).between _ _ :=
    congrArg Id.run (centeredBy_eq honest_shorten right bottom share height)
  have checked : a.centered? percent height = some _ :=
    centeredBy_eq honest_psub right bottom share height
  have order : (100 - percent) / 2 ≤ (100 - percent) / 2 + percent := Nat.le_add_right _ _
  have columns := between_inside (a := a.middleRows height) order (by omega)
  have rows : (a.middleRows height).Inside a := middleRows_inside
  rw [← eq] at columns checked
  refine ⟨⟨?_, ?_, ?_, ?_⟩, ?_, ?_, ?_, checked⟩
  · exact rows.left.trans columns.left
  · exact columns.right.trans rows.right
  · exact rows.top.trans columns.top
  · exact columns.bottom.trans rows.bottom
  · rw [eq]
    rfl
  · rw [eq]
    rfl
  · rw [eq]
    exact abs_margins_le (a := a.middleRows height) order (by omega) (by omega) (by omega)

/-- A third of the columns of a low screen, which lies to the right of others and is next to the last one:
    the window takes all rows, and leaves a column more on the right. -/
theorem centered_on_a_low_screen :
    let a : Area := ⟨65434, 7, 100, 9⟩
    a.x + a.width ≤ most ∧ a.y + a.height ≤ most ∧ a.centered 33 18 = ⟨65467, 7, 33, 9⟩ ∧
      (Area.mk 65467 7 33 9).Inside a ∧
      |((65467 : ℚ) - 65434) - ((65434 + 100) - (65467 + 33))| ≤ 100 / 100 + 1 ∧
      a.centered? 33 18 = some ⟨65467, 7, 33, 9⟩ := by
  intro a
  have right : a.x + a.width ≤ most := by decide
  have bottom : a.y + a.height ≤ most := by decide
  have eq : a.centered 33 18 = ⟨65467, 7, 33, 9⟩ := by decide
  obtain ⟨inside, -, -, margins, checked⟩ := centered_fits a 33 18 right bottom (by decide)
  rw [eq] at inside margins checked
  exact ⟨right, bottom, eq, inside, by simpa [a] using margins, checked⟩

end Area

end TaskWatch.Screen
