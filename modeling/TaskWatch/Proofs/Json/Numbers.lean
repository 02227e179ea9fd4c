import TaskWatch.Json.Record
import TaskWatch.Proofs.Json.Passing

/-! Natural numbers are read as they were written. -/

namespace TaskWatch.Json

open Text Numeric

variable {cs rest ws : List Char} {n : Nat}

/-- Digits are gathered to the last as long as the number that they write is in range. -/
theorem gather_fits : ∀ (cs : List Char) (n : Nat),
    cs.foldl (fun n c => n * 10 + digitValue c) n ≤ largestSignificand →
      gather n cs = (cs.foldl (fun n c => n * 10 + digitValue c) n, [])
  | [], _, _ => rfl
  | c :: cs, n, fits => by
    have grows : ∀ (cs : List Char) (n : Nat),
        n ≤ cs.foldl (fun n c => n * 10 + digitValue c) n := by
      intro cs
      induction cs with
      | nil => exact fun n => Nat.le_refl n
      | cons c cs ih => exact fun n => Nat.le_trans (by omega) (ih (n * 10 + digitValue c))
    rw [List.foldl_cons] at fits
    rw [gather, if_pos (Nat.le_trans (grows cs _) fits), gather_fits cs _ fits, List.foldl_cons]

/-- What does not go on with a number ends it. -/
theorem readTail_bounded (n : Nat) (bounded : Bounded rest) :
    readTail false n 0 rest = .ok (.natural n, rest) := by
  cases rest with
  | nil => rfl
  | cons c rest =>
    obtain ⟨-, point, mark⟩ := bounded c rfl
    simp [readTail, point, mark]

theorem readNumber_digits (fits : n ≤ largestSignificand) (bounded : Bounded rest) :
    readNumber false (digits n ++ rest) = .ok (.natural n, rest) := by
  have stop : ∀ c ∈ rest.head?, isDigit c = false := fun c first => (bounded c first).1
  have tail := readTail_bounded n bounded
  obtain ⟨c, cs, written, nonzero⟩ := digits_head n
  have run := (allDigits_digits n).takeWhile stop
  have first : isDigit c = true := allDigits_digits n c (by rw [written]; exact List.mem_cons_self ..)
  by_cases zero : c = '0'
  · obtain rfl : n = 0 := Classical.byContradiction fun positive => nonzero positive zero
    show readNumber false ('0' :: rest) = _
    cases rest with
    | nil => exact tail
    | cons d rest =>
      have other : ¬ isDigit d = true := by simp [stop d rfl]
      exact (if_neg other).trans tail
  · have gathered : gather 0 (digits n) = (n, []) := by
      have whole : (digits n).foldl (fun n c => n * 10 + digitValue c) 0 = n := number_digits n
      rw [gather_fits _ _ (by rw [whole]; exact fits), whole]
    rw [written] at run gathered ⊢
    rw [List.cons_append] at run ⊢
    rw [readNumber]
    · dsimp only
      rw [if_pos first, run, gathered, ← List.cons_append, List.drop_left]
      exact tail
    · exact zero

/-- A natural number is read from its digits, if it is in range. -/
theorem readNatural_digits {most : Nat} (wanted : String) (within : n ≤ most)
    (fits : most ≤ largestSignificand) (blank : Blank ws) (bounded : Bounded rest) :
    readNatural most wanted (ws ++ (digits n ++ rest)) = .ok (n, rest) := by
  have read := readNumber_digits (Nat.le_trans within fits) bounded
  obtain ⟨c, cs, written, -⟩ := digits_head n
  have first : isDigit c = true := allDigits_digits n c (by rw [written]; exact List.mem_cons_self ..)
  obtain ⟨space, -, -, -, -, minus⟩ := digit_ne first
  rw [written, List.cons_append] at read ⊢
  rw [readNatural, skipSpace_blank blank, skipSpace_cons space]
  dsimp only
  split
  · rename_i same
    exact (minus (List.cons.inj same).1).elim
  · rename_i same
    obtain ⟨rfl, -⟩ := List.cons.inj same
    rw [if_pos first, read]
    exact if_pos within
  · rename_i same
    simp at same

end TaskWatch.Json
