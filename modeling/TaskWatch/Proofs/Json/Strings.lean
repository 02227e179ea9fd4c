import TaskWatch.Json.Print
import TaskWatch.Json.Record
import TaskWatch.Proofs.Json.Passing

/-! Strings are read as the text they spell, and a text that is written is spelled. -/

namespace TaskWatch.Json

variable {cs s rest ws : List Char} {c : Char}

/-! ### Reading -/

theorem readEscapedUnit_unit {n : Nat} {hex : List Char} (spelt : Hex n hex)
    (high : isHighHalf n = false) (low : isLowHalf n = false) (rest : List Char) :
    readEscapedUnit (hex ++ rest) = .ok (Char.ofNat n, rest) := by
  simp [readEscapedUnit, readUnit_hex spelt, high, low]

theorem not_low_of_high {n : Nat} (high : isHighHalf n = true) : isLowHalf n = false := by
  simp only [isHighHalf, isLowHalf, Bool.and_eq_true, decide_eq_true_eq, Bool.and_eq_false_iff,
    decide_eq_false_iff_not] at *
  omega

theorem readEscapedUnit_pair {h l : Nat} {hex hex' : List Char} (spelt : Hex h hex)
    (high : isHighHalf h = true) (spelt' : Hex l hex') (low : isLowHalf l = true)
    (rest : List Char) :
    readEscapedUnit (hex ++ '\\' :: 'u' :: (hex' ++ rest)) =
      .ok (Char.ofNat (0x10000 + (h - 0xD800) * 0x400 + (l - 0xDC00)), rest) := by
  simp [readEscapedUnit, readUnit_hex spelt, high, not_low_of_high high, readLowHalf,
    readUnit_hex spelt', low]

/-- An escape by number is read as its character. -/
theorem readChars_unit {c : Char} {cs rest : List Char} (read : List Char)
    (unit : readEscapedUnit cs = .ok (c, rest)) :
    readChars read ('\\' :: 'u' :: cs) = readChars (c :: read) rest := by
  rw [readChars.eq_def]
  simp only [if_neg (show ¬ '\\' = '"' by decide), if_true]
  split
  · rename_i failed
    rw [unit] at failed
    simp at failed
  · rename_i done
    obtain ⟨rfl, rfl⟩ := Prod.mk.inj (Except.ok.inj (unit.symm.trans done))
    rfl

/-- A string is read as the text it spells, after its first quotation mark. -/
theorem readChars_spells (spells : Spells cs s) (read rest : List Char) :
    readChars read (cs ++ '"' :: rest) = .ok (String.ofList (read.reverse ++ s), rest) := by
  induction spells generalizing read with
  | nil =>
    rw [List.nil_append, readChars.eq_def, List.append_nil]
    rfl
  | @plain c cs s plain _ ih =>
    obtain ⟨quote, solidus, control⟩ := plain
    rw [List.cons_append, readChars.eq_def]
    dsimp only
    rw [if_neg quote, if_neg solidus, if_neg (by simp [control]), ih]
    simp
  | @letter e c cs s known _ ih =>
    have letter : e ≠ 'u' := by
      rintro rfl
      simp [escaped?] at known
    rw [List.cons_append, List.cons_append, readChars.eq_def]
    simp [letter, known, ih]
  | unit spelt high low _ ih =>
    rw [List.cons_append, List.cons_append, List.append_assoc,
      readChars_unit read (readEscapedUnit_unit spelt high low _), ih]
    simp
  | pair spelt high spelt' low _ ih =>
    simp only [List.cons_append, List.append_assoc]
    rw [readChars_unit read (readEscapedUnit_pair spelt high spelt' low _), ih]
    simp

/-- A string is read as the text it spells, whatever it is for. -/
theorem readText_quoted (wanted : String) (blank : Blank ws) (spells : Spells cs s)
    (rest : List Char) :
    readText wanted (ws ++ quoted cs rest) = .ok (String.ofList s, rest) := by
  rw [readText, skipSpace_blank blank, quoted, skipSpace_cons (by decide)]
  exact readChars_spells spells [] rest

/-! ### Writing -/

theorem hexValue?_hexDigit {n : Nat} (small : n < 16) : hexValue? (hexDigit n) = some n := by
  have all : ∀ n : Fin 16, hexValue? (hexDigit n) = some n.val := by decide
  exact all ⟨n, small⟩

/-- A character is spelled by its escape. -/
theorem Spells.escape (c : Char) (rest : Spells cs s) : Spells (escape c ++ cs) (c :: s) := by
  unfold Json.escape
  split
  · subst_vars
    exact .letter (by decide) rest
  split
  · subst_vars
    exact .letter (by decide) rest
  split
  · subst_vars
    exact .letter (by decide) rest
  split
  · subst_vars
    exact .letter (by decide) rest
  split
  · subst_vars
    exact .letter (by decide) rest
  split
  · subst_vars
    exact .letter (by decide) rest
  split
  · subst_vars
    exact .letter (by decide) rest
  split
  · rename_i control
    have spelt : Hex c.toNat ['0', '0', hexDigit (c.toNat / 16), hexDigit (c.toNat % 16)] :=
      ⟨_, _, _, _, 0, 0, _, _, rfl, by decide, by decide, hexValue?_hexDigit (by omega),
        hexValue?_hexDigit (by omega), by omega⟩
    have small : ∀ n < 0x20, isHighHalf n = false ∧ isLowHalf n = false := by decide
    obtain ⟨high, low⟩ := small _ control
    have whole := Spells.unit spelt high low rest
    rwa [Char.ofNat_toNat] at whole
  · rename_i quote solidus _ _ _ _ _ control
    exact .plain ⟨quote, solidus, by simpa [isControl] using control⟩ rest

/-- A text is spelled by its characters, each escaped. -/
theorem spells_flatMap (s : List Char) : Spells (s.flatMap escape) s := by
  induction s with
  | nil => exact .nil
  | cons c s ih => exact ih.escape c

theorem toList_string (s : String) : (string s).toList = quoted (s.toList.flatMap escape) [] := by
  rw [string, String.toList_ofList, quoted]

end TaskWatch.Json
