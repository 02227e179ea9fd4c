import TaskWatch.Json.Skip
import TaskWatch.Proofs.Json.Grammar

/-! Whatever the grammar derives is passed over. -/

namespace TaskWatch.Json

open Text

variable {cs rest ws : List Char} {c : Char}

/-! ### Blanks -/

theorem blank_nil : Blank [] := fun _ listed => (List.not_mem_nil listed).elim

theorem skipSpace_blank (blank : Blank ws) (rest : List Char) :
    skipSpace (ws ++ rest) = skipSpace rest := List.dropWhile_append_of_pos blank

theorem skipSpace_cons (token : isSpace c = false) (rest : List Char) :
    skipSpace (c :: rest) = c :: rest := by
  rw [skipSpace, List.dropWhile_cons_of_neg (by simp [token])]

theorem skipSpace_skipSpace (cs : List Char) : skipSpace (skipSpace cs) = skipSpace cs := by
  induction cs with
  | nil => rfl
  | cons c cs ih =>
    by_cases blank : isSpace c = true
    · rwa [show skipSpace (c :: cs) = skipSpace cs from List.dropWhile_cons_of_pos blank]
    · rw [skipSpace_cons (by simpa using blank), skipSpace_cons (by simpa using blank)]

/-! ### Numerals -/

theorem not_digit_of_mark (mark : isExponentMark c = true) : isDigit c = false ∧ c ≠ '.' := by
  simp only [isExponentMark, Bool.or_eq_true, beq_iff_eq] at mark
  rcases mark with rfl | rfl <;> exact ⟨by decide, by decide⟩

theorem not_digit_head_exponent (e : Exponent cs) (bounded : Bounded rest) :
    ∀ c ∈ (cs ++ rest).head?, isDigit c = false ∧ c ≠ '.' := by
  cases e with
  | none => exact fun c first => ⟨(bounded c first).1, (bounded c first).2.1⟩
  | plain mark => rintro _ ⟨⟩; exact not_digit_of_mark mark
  | signed mark => rintro _ ⟨⟩; exact not_digit_of_mark mark

theorem not_digit_head_fraction {exponent : List Char} (f : Fraction cs) (e : Exponent exponent)
    (bounded : Bounded rest) : ∀ c ∈ (cs ++ (exponent ++ rest)).head?, isDigit c = false := by
  cases f with
  | none => exact fun c first => (not_digit_head_exponent e bounded c first).1
  | digits => rintro _ ⟨⟩; decide

/-- An exponent is passed over, after its letter. -/
theorem skipExponent_exponent {e : Char} (exponent : Exponent (e :: cs)) (bounded : Bounded rest) :
    skipExponent (cs ++ rest) = .ok rest := by
  have stop : ∀ c ∈ rest.head?, isDigit c = false := fun c first => (bounded c first).1
  cases exponent with
  | @plain _ c _ mark first digits =>
    have unsigned : c ≠ '+' ∧ c ≠ '-' := by
      constructor <;> (rintro rfl; simp [isDigit] at first)
    simp [skipExponent, unsigned, first, digits.dropWhile stop]
  | signed mark sign first digits =>
    rcases sign with rfl | rfl <;> simp [skipExponent, first, digits.dropWhile stop]

/-- What may follow the digits of a numeral: an exponent or nothing. -/
theorem skip_exponent (exponent : Exponent cs) (bounded : Bounded rest) :
    (match cs ++ rest with
      | c :: more => if isExponentMark c then skipExponent more else .ok (c :: more)
      | [] => .ok []) = (.ok rest : Except Fault (List Char)) := by
  cases cs with
  | nil =>
    cases rest with
    | nil => rfl
    | cons c rest => simp [(bounded c rfl).2.2]
  | cons e cs =>
    have mark : isExponentMark e = true := by
      cases exponent with
      | plain mark => exact mark
      | signed mark => exact mark
    simp [mark, skipExponent_exponent exponent bounded]

theorem skipFraction_fraction {fraction exponent : List Char} (f : Fraction ('.' :: fraction))
    (e : Exponent exponent) (bounded : Bounded rest) :
    skipFraction (fraction ++ (exponent ++ rest)) = .ok rest := by
  cases f with
  | digits first digits =>
    have stop := fun c head => (not_digit_head_exponent e bounded c head).1
    rw [List.cons_append, skipFraction]
    simp only [first, if_true, digits.dropWhile stop]
    exact skip_exponent e bounded

/-- What may follow the whole part of a numeral. -/
theorem skip_fraction {fraction exponent : List Char} (f : Fraction fraction)
    (e : Exponent exponent) (bounded : Bounded rest) :
    (match fraction ++ (exponent ++ rest) with
      | c :: more =>
        if c = '.' then skipFraction more
        else if isExponentMark c then skipExponent more
        else .ok (fraction ++ (exponent ++ rest))
      | [] => .ok []) = (.ok rest : Except Fault (List Char)) := by
  cases f with
  | digits first digits => exact skipFraction_fraction (.digits first digits) e bounded
  | none =>
    have point := fun c head => (not_digit_head_exponent e bounded c head).2
    have skipped := skip_exponent e bounded
    rw [List.nil_append]
    cases following : exponent ++ rest with
    | nil => simpa [following] using skipped
    | cons c more => simpa [following, point c (by simp [following])] using skipped

/-- A numeral is passed over, after its sign. -/
theorem skipNumber_unsigned (u : Unsigned cs) (bounded : Bounded rest) :
    skipNumber (cs ++ rest) = .ok rest := by
  obtain ⟨whole, fraction, exponent⟩ := u
  rename_i w f e
  have stop := not_digit_head_fraction fraction exponent bounded
  have tail := skip_fraction fraction exponent bounded
  rw [List.append_assoc, List.append_assoc]
  cases whole with
  | zero =>
    rw [List.cons_append, List.nil_append]
    unfold skipNumber
    dsimp only
    cases following : f ++ (e ++ rest) with
    | nil => simpa [following] using tail
    | cons c more => simpa [following, stop c (by simp [following])] using tail
  | digits first positive digits =>
    rw [List.cons_append, skipNumber, if_pos first, digits.dropWhile stop]
    · exact tail
    · exact fun zero => (positive zero).elim

/-! ### Strings -/

theorem readUnit_hex {n : Nat} {hex : List Char} (spelt : Hex n hex) (rest : List Char) :
    readUnit (hex ++ rest) = .ok (n, rest) := by
  obtain ⟨a, b, c, d, va, vb, vc, vd, rfl, ha, hb, hc, hd, rfl⟩ := spelt
  have enough : ¬ Time.octets [a, b, c, d] < 4 := by
    have := a.utf8Size_pos
    have := b.utf8Size_pos
    have := c.utf8Size_pos
    have := d.utf8Size_pos
    simp only [Time.octets, List.foldr]
    omega
  simp only [readUnit, List.cons_append, List.nil_append, List.take_succ_cons, List.take_zero,
    if_neg enough, ha, hb, hc, hd]

/-- A string is passed over, after its first quotation mark. -/
theorem skipChars_chars (chars : Chars cs) (rest : List Char) :
    skipChars (cs ++ '"' :: rest) = .ok rest := by
  induction chars with
  | nil => rw [List.nil_append, skipChars.eq_def]; rfl
  | @plain c cs plain _ ih =>
    obtain ⟨quote, solidus, control⟩ := plain
    rw [List.cons_append, skipChars.eq_def]
    dsimp only
    rw [if_neg quote, if_neg solidus, if_neg (by simp [control]), ih]
  | @letter e c cs known _ ih =>
    have letter : e ≠ 'u' := by
      rintro rfl
      simp [escaped?] at known
    rw [List.cons_append, List.cons_append, skipChars.eq_def]
    simp [letter, known, ih]
  | unit spelt _ ih =>
    rw [List.cons_append, List.cons_append, List.append_assoc, skipChars.eq_def]
    simp only [if_neg (show ¬ '\\' = '"' by decide), if_true]
    split
    · rename_i failed
      rw [readUnit_hex spelt] at failed
      simp at failed
    · rename_i read
      rw [readUnit_hex spelt] at read
      obtain ⟨-, rfl⟩ := Prod.mk.inj (Except.ok.inj read)
      exact ih

/-! ### What follows a value -/

theorem bounded_cons (digit : isDigit c = false) (point : c ≠ '.') (mark : isExponentMark c = false)
    (rest : List Char) : Bounded (c :: rest) := by
  rintro _ ⟨⟩
  exact ⟨digit, point, mark⟩

theorem bounded_comma (rest : List Char) : Bounded (',' :: rest) :=
  bounded_cons (by decide) (by decide) (by decide) rest

theorem bounded_bracket (rest : List Char) : Bounded (']' :: rest) :=
  bounded_cons (by decide) (by decide) (by decide) rest

theorem bounded_brace (rest : List Char) : Bounded ('\x7d' :: rest) :=
  bounded_cons (by decide) (by decide) (by decide) rest

theorem bounded_blank (blank : Blank ws) (bounded : Bounded rest) : Bounded (ws ++ rest) := by
  cases ws with
  | nil => exact bounded
  | cons c ws =>
    have space := blank c (List.mem_cons_self ..)
    simp only [isSpace, Bool.or_eq_true, beq_iff_eq] at space
    rcases space with ((rfl | rfl) | rfl) | rfl <;>
      exact bounded_cons (by decide) (by decide) (by decide) _

/-! ### Values -/

/-- A digit begins no other token. -/
theorem digit_ne (digit : isDigit c = true) : isSpace c = false ∧ c ≠ ']' ∧ c ≠ 'n' ∧ c ≠ 't' ∧
    c ≠ 'f' ∧ c ≠ '-' := by
  have space : isSpace c = false := by
    refine Bool.eq_false_iff.mpr fun space => ?_
    simp only [isSpace, Bool.or_eq_true, beq_iff_eq] at space
    rcases space with ((rfl | rfl) | rfl) | rfl <;> simp [isDigit] at digit
  refine ⟨space, ?_, ?_, ?_, ?_, ?_⟩ <;> (rintro rfl; simp [isDigit] at digit)

theorem Unsigned.head (u : Unsigned cs) : ∃ c more, cs = c :: more ∧ isDigit c = true := by
  obtain ⟨whole, -, -⟩ := u
  cases whole with
  | zero => exact ⟨_, _, rfl, by decide⟩
  | digits first => exact ⟨_, _, rfl, first⟩

/-- A value begins with a token of its own. -/
theorem Valid.head (value : Valid .value cs) :
    ∃ c more, cs = c :: more ∧ isSpace c = false ∧ c ≠ ']' := by
  cases value with
  | unsigned u =>
    obtain ⟨c, more, rfl, digit⟩ := u.head
    exact ⟨c, more, rfl, (digit_ne digit).1, (digit_ne digit).2.1⟩
  | _ => exact ⟨_, _, rfl, by decide, by decide⟩

/-- Blanks in front are passed over with the value. -/
theorem skipValue_blank (fuel : Nat) (blank : Blank ws) (rest : List Char) :
    skipValue fuel (ws ++ rest) = skipValue fuel rest := by
  cases fuel with
  | zero => rfl
  | succ fuel => rw [skipValue, skipValue, skipSpace_blank blank]

theorem skipElements_skipSpace (fuel : Nat) (cs : List Char) :
    skipElements fuel (skipSpace cs) = skipElements fuel cs := by
  have value (fuel : Nat) : skipValue fuel (skipSpace cs) = skipValue fuel cs := by
    cases fuel with
    | zero => rfl
    | succ fuel => rw [skipValue, skipValue, skipSpace_skipSpace]
  cases fuel with
  | zero => rfl
  | succ fuel => rw [skipElements, skipElements, value]

theorem skipMembers_skipSpace (fuel : Nat) (cs : List Char) :
    skipMembers fuel (skipSpace cs) = skipMembers fuel cs := by
  cases fuel with
  | zero => rfl
  | succ fuel => rw [skipMembers, skipMembers, skipSpace_skipSpace]

/-- Elements begin with a value, and so not with the end of the list. -/
theorem Valid.elements_head (elements : Valid .elements cs) (rest : List Char) :
    ∃ d more, skipSpace (cs ++ rest) = d :: more ∧ d ≠ ']' := by
  cases elements with
  | lastElement left value right =>
    obtain ⟨c, more, rfl, token, other⟩ := value.head
    rw [List.append_assoc, skipSpace_blank left, List.cons_append, List.cons_append,
      skipSpace_cons token]
    exact ⟨_, _, rfl, other⟩
  | element left value right more =>
    obtain ⟨c, more, rfl, token, other⟩ := value.head
    rw [List.append_assoc, skipSpace_blank left, List.cons_append, List.cons_append,
      skipSpace_cons token]
    exact ⟨_, _, rfl, other⟩

/-- Members begin with a name. -/
theorem Valid.members_head (members : Valid .members cs) (rest : List Char) :
    ∃ more, skipSpace (cs ++ rest) = '"' :: more := by
  cases members with
  | lastMember b₁ =>
    rw [List.append_assoc, skipSpace_blank b₁, quoted, List.cons_append, skipSpace_cons (by decide)]
    exact ⟨_, rfl⟩
  | member b₁ =>
    rw [List.append_assoc, skipSpace_blank b₁, quoted, List.cons_append, skipSpace_cons (by decide)]
    exact ⟨_, rfl⟩

/-- What it means that a phrase is passed over, with steps enough for its length. -/
def Passed : Phrase → List Char → Prop
  | .value, cs => ∀ fuel rest, cs.length ≤ fuel → Bounded rest →
    skipValue fuel (cs ++ rest) = .ok rest
  | .elements, cs => ∀ fuel rest, cs.length < fuel →
    skipElements fuel (cs ++ ']' :: rest) = .ok rest
  | .members, cs => ∀ fuel rest, cs.length < fuel →
    skipMembers fuel (cs ++ '\x7d' :: rest) = .ok rest

theorem skipWord_word (word rest : List Char) : skipWord word (word ++ rest) = .ok rest := by
  induction word with
  | nil => cases rest <;> rfl
  | cons w word ih => simp [skipWord, ih]

namespace Passed

variable {value elements members before after name ws₁ ws₂ ws₃ ws₄ : List Char}

/-- A value of one token takes one step. -/
theorem of_step {c : Char} {more : List Char}
    (step : ∀ fuel rest, Bounded rest → skipValue (fuel + 1) (c :: (more ++ rest)) = .ok rest) :
    Passed .value (c :: more) := by
  intro fuel rest enough bounded
  cases fuel with
  | zero => simp at enough
  | succ fuel => exact step fuel rest bounded

theorem null : Passed .value ['n', 'u', 'l', 'l'] := of_step fun fuel rest _ => by
  rw [skipValue, skipSpace_cons (by decide)]
  exact skipWord_word ['u', 'l', 'l'] rest

theorem yes : Passed .value ['t', 'r', 'u', 'e'] := of_step fun fuel rest _ => by
  rw [skipValue, skipSpace_cons (by decide)]
  exact skipWord_word ['r', 'u', 'e'] rest

theorem no : Passed .value ['f', 'a', 'l', 's', 'e'] := of_step fun fuel rest _ => by
  rw [skipValue, skipSpace_cons (by decide)]
  exact skipWord_word ['a', 'l', 's', 'e'] rest

theorem unsigned (u : Unsigned cs) : Passed .value cs := by
  obtain ⟨c, more, rfl, digit⟩ := u.head
  refine of_step fun fuel rest bounded => ?_
  obtain ⟨space, -, n, t, f, minus⟩ := digit_ne digit
  rw [skipValue, skipSpace_cons space]
  dsimp only
  rw [if_neg n, if_neg t, if_neg f, if_neg minus, if_pos digit]
  exact skipNumber_unsigned u bounded

theorem negative (u : Unsigned cs) : Passed .value ('-' :: cs) := of_step fun fuel rest bounded => by
  rw [skipValue, skipSpace_cons (by decide)]
  exact skipNumber_unsigned u bounded

theorem text (chars : Chars cs) : Passed .value (quoted cs []) := of_step fun fuel rest _ => by
  rw [List.append_assoc, skipValue, skipSpace_cons (by decide)]
  exact skipChars_chars chars rest

theorem emptyList {ws : List Char} (blank : Blank ws) : Passed .value ('[' :: (ws ++ [']'])) :=
  of_step fun fuel rest _ => by
    rw [List.append_assoc, skipValue, skipSpace_cons (by decide)]
    dsimp only
    rw [skipSpace_blank blank, List.singleton_append, skipSpace_cons (by decide)]
    rfl

theorem emptyRecord {ws : List Char} (blank : Blank ws) :
    Passed .value ('\x7b' :: (ws ++ ['\x7d'])) :=
  of_step fun fuel rest _ => by
    rw [List.append_assoc, skipValue, skipSpace_cons (by decide)]
    dsimp only
    rw [skipSpace_blank blank, List.singleton_append, skipSpace_cons (by decide)]
    rfl

theorem list (elements : Valid .elements cs) (passed : Passed .elements cs) :
    Passed .value ('[' :: (cs ++ [']'])) := by
  intro fuel rest enough _
  cases fuel with
  | zero => simp at enough
  | succ fuel =>
    obtain ⟨d, more, head, other⟩ := elements.elements_head (']' :: rest)
    have passed := passed fuel rest (by simp at enough; omega)
    rw [← skipElements_skipSpace, head] at passed
    rw [List.cons_append, List.append_assoc, skipValue, skipSpace_cons (by decide)]
    simp [head, other, passed, show isDigit '[' = false by decide]

theorem record (members : Valid .members cs) (passed : Passed .members cs) :
    Passed .value ('\x7b' :: (cs ++ ['\x7d'])) := by
  intro fuel rest enough _
  cases fuel with
  | zero => simp at enough
  | succ fuel =>
    obtain ⟨more, head⟩ := members.members_head ('\x7d' :: rest)
    have passed := passed fuel rest (by simp at enough; omega)
    rw [← skipMembers_skipSpace, head] at passed
    rw [List.cons_append, List.append_assoc, skipValue, skipSpace_cons (by decide)]
    simp [head, passed, show isDigit '\x7b' = false by decide]

/-- An element is passed over, up to what comes after it and its blanks. -/
theorem element {fuel : Nat} {v before after : List Char} (left : Blank before)
    (value : Passed .value v) (right : Blank after) (enough : v.length ≤ fuel)
    (bounded : Bounded rest) :
    skipValue fuel (before ++ (v ++ (after ++ rest))) = .ok (after ++ rest) := by
  rw [skipValue_blank fuel left, value fuel _ enough (bounded_blank right bounded)]

/-- What is passed over after a member: other members, or the closing brace. -/
def afterMember (fuel : Nat) : List Char → Except Fault (List Char)
  | [] => .error .ended
  | c :: rest =>
    if c = ',' then skipMembers fuel rest
    else if c = '\x7d' then .ok rest
    else .error .malformed

/-- A name is passed over with its colon, and so is the value of the member. -/
theorem member {fuel : Nat} {name v ws₁ ws₂ ws₃ ws₄ : List Char} (b₁ : Blank ws₁)
    (chars : Chars name) (b₂ : Blank ws₂) (b₃ : Blank ws₃) (value : Passed .value v)
    (b₄ : Blank ws₄) (enough : v.length ≤ fuel) (bounded : Bounded rest) :
    skipMembers (fuel + 1)
        (ws₁ ++ quoted name (ws₂ ++ ':' :: (ws₃ ++ (v ++ (ws₄ ++ rest))))) =
      afterMember fuel (skipSpace rest) := by
  rw [skipMembers, skipSpace_blank b₁, quoted, skipSpace_cons (by decide)]
  simp only [if_true, skipChars_chars chars, skipSpace_blank b₂, skipSpace_cons (c := ':') (by decide),
    element b₃ value b₄ enough bounded, skipSpace_blank b₄]
  rfl

end Passed

/-- Whatever the grammar derives is passed over, and what comes after it is left. -/
theorem Valid.passed {p : Phrase} (valid : Valid p cs) : Passed p cs := by
  induction valid with
  | null => exact .null
  | yes => exact .yes
  | no => exact .no
  | unsigned u => exact .unsigned u
  | negative u => exact .negative u
  | text chars => exact .text chars
  | emptyList blank => exact .emptyList blank
  | list elements ih => exact .list elements ih
  | emptyRecord blank => exact .emptyRecord blank
  | record members ih => exact .record members ih
  | lastElement left value right ih =>
    intro fuel rest enough
    cases fuel with
    | zero => simp at enough
    | succ fuel =>
      simp only [List.length_append] at enough
      rw [List.append_assoc, List.append_assoc, skipElements,
        Passed.element left ih right (by omega) (bounded_bracket rest)]
      simp [skipSpace_blank right, skipSpace_cons (c := ']') (by decide)]
  | element left value right more ih ih' =>
    intro fuel rest enough
    cases fuel with
    | zero => simp at enough
    | succ fuel =>
      simp only [List.length_append, List.length_cons] at enough
      simp only [List.append_assoc, List.cons_append]
      rw [skipElements, Passed.element left ih right (by omega) (bounded_comma _)]
      simp [skipSpace_blank right, skipSpace_cons (c := ',') (by decide), ih' fuel rest (by omega)]
  | lastMember b₁ chars b₂ b₃ value b₄ ih =>
    intro fuel rest enough
    cases fuel with
    | zero => simp at enough
    | succ fuel =>
      simp only [quoted, List.length_append, List.length_cons] at enough
      simp only [quoted, List.append_assoc, List.cons_append]
      rw [← quoted, Passed.member b₁ chars b₂ b₃ ih b₄ (by omega) (bounded_brace rest),
        skipSpace_cons (by decide)]
      rfl
  | member b₁ chars b₂ b₃ value b₄ more ih ih' =>
    intro fuel rest enough
    cases fuel with
    | zero => simp at enough
    | succ fuel =>
      simp only [quoted, List.length_append, List.length_cons] at enough
      simp only [quoted, List.append_assoc, List.cons_append]
      rw [← quoted, Passed.member b₁ chars b₂ b₃ ih b₄ (by omega) (bounded_comma _),
        skipSpace_cons (by decide)]
      exact ih' fuel rest (by omega)

/-- A value is passed over with the blanks in front of it, and what comes after it is left. -/
theorem skip_value (blank : Blank ws) (value : Valid .value cs) (bounded : Bounded rest) :
    skip (ws ++ (cs ++ rest)) = .ok rest := by
  rw [skip, skipValue_blank _ blank]
  exact value.passed _ rest (by simp only [List.length_append]; omega) bounded

end TaskWatch.Json
