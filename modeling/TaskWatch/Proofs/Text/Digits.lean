import TaskWatch.Numeric.Power
import TaskWatch.Text.Digits

/-! Numbers are read back from the digits that they are written with. -/

namespace TaskWatch.Text

variable {cs ds rest : List Char} {n k : Nat}

/-- Nothing but digits. -/
def AllDigits (cs : List Char) : Prop := ∀ c ∈ cs, isDigit c = true

/-! ### Runs of digits -/

/-- A run of digits ends where what follows it does not begin with one. -/
theorem AllDigits.takeWhile (digits : AllDigits cs) (stop : ∀ c ∈ rest.head?, isDigit c = false) :
    (cs ++ rest).takeWhile isDigit = cs := by
  rw [List.takeWhile_append_of_pos digits]
  cases rest with
  | nil => simp
  | cons c rest => simp [stop c rfl]

theorem AllDigits.dropWhile (digits : AllDigits cs) (stop : ∀ c ∈ rest.head?, isDigit c = false) :
    (cs ++ rest).dropWhile isDigit = rest := by
  rw [List.dropWhile_append_of_pos digits]
  cases rest with
  | nil => rfl
  | cons c rest => exact List.dropWhile_cons_of_neg (by simp [stop c rfl])

theorem number_append (cs ds : List Char) :
    number (cs ++ ds) = ds.foldl (fun n c => n * 10 + digitValue c) (number cs) := List.foldl_append ..

/-! ### Writing -/

theorem allDigits_digits (n : Nat) : AllDigits (digits n) := fun _ listed =>
  Nat.isDigit_of_mem_toDigits (by decide) (by decide) listed

theorem number_digits (n : Nat) : number (digits n) = n := by
  have same : number (digits n) = Nat.ofDigitChars 10 (Nat.toDigits 10 n) 0 := by
    simp only [number, digits, Nat.ofDigitChars_eq_foldl, digitValue, Nat.mul_comm]
  rw [same, Nat.ofDigitChars_ten_toDigits]

/-- No zero stands in front of other digits. -/
theorem digits_head (n : Nat) : ∃ c cs, digits n = c :: cs ∧ (n ≠ 0 → c ≠ '0') := by
  induction n using Nat.strongRecOn with
  | _ n ih =>
    unfold digits
    rw [Nat.toDigits_eq_if (by decide)]
    split
    · rename_i small
      have nonzero : ∀ n < 10, n ≠ 0 → Nat.digitChar n ≠ '0' := by decide
      exact ⟨_, _, rfl, nonzero n small⟩
    · obtain ⟨c, cs, split, nonzero⟩ := ih (n / 10) (by omega)
      rw [show Nat.toDigits 10 (n / 10) = c :: cs from split]
      exact ⟨c, _, rfl, fun _ => nonzero (by omega)⟩

/-! ### Writing to a width -/

theorem toList_padded (k n : Nat) : (padded k n).toList =
    List.replicate (k - (digits n).length) '0' ++ digits n := by
  rw [padded, String.toList_ofList]

theorem allDigits_padded (k n : Nat) : AllDigits (padded k n).toList := by
  rw [toList_padded]
  intro c listed
  rcases List.mem_append.mp listed with zero | digit
  · rw [List.eq_of_mem_replicate zero]
    decide
  · exact allDigits_digits n c digit

theorem number_padded (k n : Nat) : number (padded k n).toList = n := by
  have zeros (k : Nat) : number (List.replicate k '0') = 0 := by
    induction k with
    | zero => rfl
    | succ k ih => rw [List.replicate_succ', number_append, ih]; rfl
  rw [toList_padded, number_append, zeros]
  exact number_digits n

theorem length_padded (fits : n < Numeric.tenTo k) (wide : 0 < k) :
    (padded k n).toList.length = k := by
  have short : (digits n).length ≤ k := (Nat.length_toDigits_le_iff (by decide) wide).mpr fits
  rw [toList_padded, List.length_append, List.length_replicate]
  omega

end TaskWatch.Text
