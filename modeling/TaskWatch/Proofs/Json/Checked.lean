import TaskWatch.Proofs.Json.Lists
import TaskWatch.Proofs.Json.Numbers

/-! Values that are checked before anybody knows what they are read as.

    The check reads every string and every number, and it counts how deep lists and records are nested.
    A value without parts of its own passes at any depth, if it is one that can be held: a text, a truth
    value, null or a natural number of 64 bits. A list or an object passes if what it holds passes one
    level further down. -/

namespace TaskWatch.Json

open Text

/-- A string, a truth value, null, or a natural number of 64 bits. -/
inductive Plain : List Char → Prop
  | null : Plain ['n', 'u', 'l', 'l']
  | yes : Plain ['t', 'r', 'u', 'e']
  | no : Plain ['f', 'a', 'l', 's', 'e']
  | number {n : Nat} (fits : n < UInt64.size) : Plain (digits n)
  | text {cs s : List Char} (spells : Spells cs s) : Plain (quoted cs [])

/-- The value passes the check where `depth` more levels may open, with steps enough for its length. -/
def Checks (depth : Nat) (v : String) : Prop :=
  ∀ fuel ws rest, Blank ws → Bounded rest → v.toList.length ≤ fuel →
    checkValue fuel depth (ws ++ (v.toList ++ rest)) = .ok rest

variable {cs s rest ws before after : List Char} {v : String} {vs : List String}
  {es : List (String × String)} {depth : Nat}

/-! ### Plain values -/

theorem Spells.chars (spells : Spells cs s) : Chars cs := by
  induction spells with
  | nil => exact .nil
  | plain plain _ ih => exact .plain plain ih
  | letter known _ ih => exact .letter known ih
  | unit spelt _ _ _ ih => exact .unit spelt ih
  | pair spelt _ spelt' _ _ ih => exact .unit spelt (.unit spelt' ih)

theorem unsigned_digits (n : Nat) : Unsigned (digits n) := by
  obtain ⟨c, cs, written, nonzero⟩ := digits_head n
  have all := allDigits_digits n
  have whole : Whole (digits n) := by
    by_cases zero : c = '0'
    · obtain rfl : n = 0 := Classical.byContradiction fun positive => nonzero positive zero
      exact .zero
    · rw [written] at all ⊢
      exact .digits (all c (List.mem_cons_self ..)) zero
        fun d listed => all d (List.mem_cons_of_mem _ listed)
  simpa using Unsigned.of whole .none .none

/-- A plain value is one of the grammar. -/
theorem Plain.valid (plain : Plain cs) : Valid .value cs := by
  cases plain with
  | null => exact .null
  | yes => exact .yes
  | no => exact .no
  | number => exact .unsigned (unsigned_digits _)
  | text spells => exact .text spells.chars

/-- A plain value passes the check wherever it stands. -/
theorem Plain.checks (plain : Plain v.toList) (depth : Nat) : Checks depth v := by
  intro fuel ws rest blank bounded enough
  generalize v.toList = text at plain enough
  obtain ⟨c, more, begins, token, -⟩ := plain.valid.head
  obtain ⟨fuel, rfl⟩ : ∃ n, fuel = n + 1 := ⟨fuel - 1, by simp [begins] at enough; omega⟩
  rw [checkValue, skipSpace_blank blank]
  cases plain with
  | null =>
    rw [List.cons_append, skipSpace_cons (by decide)]
    exact skipWord_word ['u', 'l', 'l'] rest
  | yes =>
    rw [List.cons_append, skipSpace_cons (by decide)]
    exact skipWord_word ['r', 'u', 'e'] rest
  | no =>
    rw [List.cons_append, skipSpace_cons (by decide)]
    exact skipWord_word ['a', 'l', 's', 'e'] rest
  | @number n fits =>
    have read := readNumber_digits (n := n) (Nat.le_sub_one_of_lt fits) bounded
    have digit := allDigits_digits n c (by rw [begins]; exact List.mem_cons_self ..)
    obtain ⟨-, -, n, t, f, minus⟩ := digit_ne digit
    rw [begins, List.cons_append] at read ⊢
    rw [skipSpace_cons token]
    dsimp only
    rw [if_neg n, if_neg t, if_neg f, if_neg minus, if_pos digit, read]
    rfl
  | text spells =>
    have read := readChars_spells spells [] rest
    rw [quoted, List.cons_append, List.append_assoc, skipSpace_cons (by decide)]
    simp [read, Except.map, isDigit]

/-! ### Lists -/

theorem checkValue_blank (fuel depth : Nat) (blank : Blank ws) (rest : List Char) :
    checkValue fuel depth (ws ++ rest) = checkValue fuel depth rest := by
  cases fuel with
  | zero => rfl
  | succ fuel => rw [checkValue, checkValue, skipSpace_blank blank]

/-- Elements are checked, one after another. -/
theorem checkElements_all (elements : AreElements vs cs) :
    ∀ (fuel : Nat) (rest : List Char), (∀ v ∈ vs, Checks depth v) → cs.length < fuel →
      checkElements fuel depth (cs ++ ']' :: rest) = .ok rest := by
  induction elements with
  | @last v before after b ba =>
    intro fuel rest checks enough
    simp only [List.length_append] at enough
    obtain ⟨fuel, rfl⟩ : ∃ n, fuel = n + 1 := ⟨fuel - 1, by omega⟩
    have value := checks v (List.mem_cons_self ..) fuel before (after ++ ']' :: rest) b
      (bounded_blank ba (bounded_bracket rest)) (by omega)
    simp only [List.append_assoc]
    rw [checkElements, value]
    simp [skipSpace_blank ba, skipSpace_cons (c := ']') (by decide)]
  | @more v vs cs before after b ba _ ih =>
    intro fuel rest checks enough
    simp only [List.length_append, List.length_cons] at enough
    obtain ⟨fuel, rfl⟩ : ∃ n, fuel = n + 1 := ⟨fuel - 1, by omega⟩
    have value := checks v (List.mem_cons_self ..) fuel before (after ++ ',' :: (cs ++ ']' :: rest)) b
      (bounded_blank ba (bounded_comma _)) (by omega)
    have later := ih fuel rest (fun w listed => checks w (List.mem_cons_of_mem _ listed)) (by omega)
    simp only [List.append_assoc, List.cons_append]
    rw [checkElements, value]
    simp [skipSpace_blank ba, skipSpace_cons (c := ',') (by decide), later]

/-- Elements do not begin with the end of the list. -/
theorem AreElements.head (elements : AreElements vs cs) (begins : ∀ v ∈ vs, Begins v.toList)
    (rest : List Char) :
    ∃ ws d more, Blank ws ∧ cs ++ rest = ws ++ d :: more ∧ isSpace d = false ∧ d ≠ ']' := by
  cases elements with
  | @last v before after b =>
    obtain ⟨d, more, text, token, other⟩ := begins v (List.mem_cons_self ..)
    exact ⟨before, d, more ++ (after ++ rest), b, by simp [text], token, other⟩
  | @more v vs cs before after b =>
    obtain ⟨d, more, text, token, other⟩ := begins v (List.mem_cons_self ..)
    exact ⟨before, d, more ++ (after ++ ',' :: (cs ++ rest)), b, by simp [text], token, other⟩

theorem checkElements_blank (fuel depth : Nat) (blank : Blank ws) (rest : List Char) :
    checkElements fuel depth (ws ++ rest) = checkElements fuel depth rest := by
  cases fuel with
  | zero => rfl
  | succ fuel => rw [checkElements, checkElements, checkValue_blank fuel depth blank]

/-- A list passes, if its values pass one level further down. -/
theorem IsList.checks (isList : IsList vs v.toList) (checks : ∀ w ∈ vs, Checks depth w)
    (begins : ∀ w ∈ vs, Begins w.toList) : Checks (depth + 1) v := by
  intro fuel ws rest blank _ enough
  generalize v.toList = text at isList enough
  cases isList with
  | @nothing inside b =>
    obtain ⟨fuel, rfl⟩ : ∃ n, fuel = n + 1 := ⟨fuel - 1, by simp at enough; omega⟩
    rw [checkValue, skipSpace_blank blank, List.cons_append, skipSpace_cons (by decide)]
    simp [skipSpace_blank b, skipSpace_cons (c := ']') (by decide), isDigit]
  | @elements _ cs elements =>
    simp only [List.length_cons, List.length_append, List.length_nil] at enough
    obtain ⟨fuel, rfl⟩ : ∃ n, fuel = n + 1 := ⟨fuel - 1, by omega⟩
    obtain ⟨front, d, more, b, text, token, other⟩ := elements.head begins (']' :: rest)
    have all := checkElements_all elements fuel rest checks (by omega)
    rw [text, checkElements_blank fuel depth b] at all
    rw [checkValue, skipSpace_blank blank, List.cons_append, skipSpace_cons (by decide),
      List.append_assoc, List.singleton_append, text]
    simp [skipSpace_blank b, skipSpace_cons token, other, all, isDigit]

/-! ### Objects -/

/-- What is checked after a member: other members, or the closing brace. -/
def afterChecked (fuel depth : Nat) : List Char → Except Fault (List Char)
  | [] => .error .ended
  | c :: rest =>
    if c = ',' then checkMembers fuel depth rest
    else if c = '\x7d' then .ok rest
    else .error .malformed

/-- A member is checked, up to what comes after it and its blanks. -/
theorem checkMembers_next {e : String × String} (member : IsMember e cs) (checks : Checks depth e.2)
    {fuel : Nat} (enough : cs.length ≤ fuel) (bounded : Bounded rest) :
    checkMembers (fuel + 1) depth (cs ++ rest) = afterChecked fuel depth (skipSpace rest) := by
  cases member with
  | @of name value cs ws₁ ws₂ ws₃ ws₄ b₁ spells b₂ b₃ b₄ =>
    simp only [quoted, List.length_append, List.length_cons] at enough
    have read := readChars_spells spells [] (ws₂ ++ ':' :: (ws₃ ++ (value.toList ++ (ws₄ ++ rest))))
    have value := checks fuel ws₃ (ws₄ ++ rest) b₃ (bounded_blank b₄ bounded) (by dsimp only; omega)
    simp only [quoted, List.append_assoc, List.cons_append]
    rw [checkMembers, skipSpace_blank b₁, skipSpace_cons (by decide)]
    simp only [if_true, read, skipSpace_blank b₂, skipSpace_cons (c := ':') (by decide), value,
      skipSpace_blank b₄]
    rfl

/-- Members are checked, one after another. -/
theorem checkMembers_all (members : AreMembers es cs) :
    ∀ (fuel : Nat) (rest : List Char), (∀ e ∈ es, Checks depth e.2) → cs.length < fuel →
      checkMembers fuel depth (cs ++ '\x7d' :: rest) = .ok rest := by
  induction members with
  | last member =>
    intro fuel rest checks enough
    obtain ⟨fuel, rfl⟩ : ∃ n, fuel = n + 1 := ⟨fuel - 1, by omega⟩
    rw [checkMembers_next member (checks _ (List.mem_cons_self ..)) (by omega) (bounded_brace rest),
      skipSpace_cons (by decide)]
    rfl
  | more member _ ih =>
    intro fuel rest checks enough
    simp only [List.length_append, List.length_cons] at enough
    obtain ⟨fuel, rfl⟩ : ∃ n, fuel = n + 1 := ⟨fuel - 1, by omega⟩
    rw [List.append_assoc, List.cons_append,
      checkMembers_next member (checks _ (List.mem_cons_self ..)) (by omega) (bounded_comma _),
      skipSpace_cons (by decide)]
    exact ih fuel rest (fun e listed => checks e (List.mem_cons_of_mem _ listed)) (by omega)

theorem IsMember.head {e : String × String} (member : IsMember e cs) (rest : List Char) :
    ∃ ws more, Blank ws ∧ cs ++ rest = ws ++ '"' :: more := by
  cases member with
  | @of name value cs ws₁ ws₂ ws₃ ws₄ b₁ =>
    exact ⟨ws₁, cs ++ '"' :: (ws₂ ++ ':' :: (ws₃ ++ (value.toList ++ (ws₄ ++ rest)))), b₁,
      by simp [quoted]⟩

/-- Members begin with a name. -/
theorem AreMembers.head (members : AreMembers es cs) (rest : List Char) :
    ∃ ws more, Blank ws ∧ cs ++ rest = ws ++ '"' :: more := by
  cases members with
  | last member => exact member.head rest
  | more member =>
    rw [List.append_assoc]
    exact member.head _

theorem checkMembers_blank (fuel depth : Nat) (blank : Blank ws) (rest : List Char) :
    checkMembers fuel depth (ws ++ rest) = checkMembers fuel depth rest := by
  cases fuel with
  | zero => rfl
  | succ fuel => rw [checkMembers, checkMembers, skipSpace_blank blank]

/-- An object passes, if its values pass one level further down. -/
theorem IsObject.checks (object : IsObject es v.toList) (checks : ∀ e ∈ es, Checks depth e.2) :
    Checks (depth + 1) v := by
  intro fuel ws rest blank _ enough
  generalize v.toList = text at object enough
  cases object with
  | @nothing inside b =>
    obtain ⟨fuel, rfl⟩ : ∃ n, fuel = n + 1 := ⟨fuel - 1, by simp at enough; omega⟩
    rw [checkValue, skipSpace_blank blank, List.cons_append, skipSpace_cons (by decide)]
    simp [skipSpace_blank b, skipSpace_cons (c := '\x7d') (by decide), isDigit]
  | @members _ cs members =>
    simp only [List.length_cons, List.length_append, List.length_nil] at enough
    obtain ⟨fuel, rfl⟩ : ∃ n, fuel = n + 1 := ⟨fuel - 1, by omega⟩
    obtain ⟨front, more, b, text⟩ := members.head ('\x7d' :: rest)
    have all := checkMembers_all members fuel rest checks (by omega)
    rw [text, checkMembers_blank fuel depth b] at all
    rw [checkValue, skipSpace_blank blank, List.cons_append, skipSpace_cons (by decide),
      List.append_assoc, List.singleton_append, text]
    simp [skipSpace_blank b, skipSpace_cons (c := '"') (by decide), all, isDigit]

/-- What passes at the depth of a whole text is passed over, and what comes after it is left. -/
theorem check_value (checks : Checks deepest v) (blank : Blank ws) (bounded : Bounded rest) :
    check (ws ++ (v.toList ++ rest)) = .ok rest :=
  checks _ ws rest blank bounded (by simp only [List.length_append]; omega)

end TaskWatch.Json
