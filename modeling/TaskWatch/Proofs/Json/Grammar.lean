import TaskWatch.Json.Number
import TaskWatch.Proofs.Text.Digits

/-! The grammar of JSON.

    What a text in JSON may be is written down here on its own, as it is derived and not as it is read:
    numerals, strings, and values nested to any depth with blanks between all tokens. A string spells a
    text (`Spells`), each character by itself or by an escape. A string whose content nobody asks for may
    also hold escapes that spell no character (`Chars`). -/

namespace TaskWatch.Json

open Text

/-- Nothing but blanks. -/
def Blank (cs : List Char) : Prop := ∀ c ∈ cs, isSpace c = true

/-! ### Numerals -/

/-- The whole part of a numeral, without a zero in front of other digits. -/
inductive Whole : List Char → Prop
  | zero : Whole ['0']
  | digits {c : Char} {cs : List Char} (first : isDigit c = true) (positive : c ≠ '0')
    (rest : AllDigits cs) : Whole (c :: cs)

/-- The fraction of a numeral, if there is one. -/
inductive Fraction : List Char → Prop
  | none : Fraction []
  | digits {c : Char} {cs : List Char} (first : isDigit c = true) (rest : AllDigits cs) :
    Fraction ('.' :: c :: cs)

/-- The exponent of a numeral, if there is one. -/
inductive Exponent : List Char → Prop
  | none : Exponent []
  | plain {e c : Char} {cs : List Char} (mark : isExponentMark e = true) (first : isDigit c = true)
    (rest : AllDigits cs) : Exponent (e :: c :: cs)
  | signed {e s c : Char} {cs : List Char} (mark : isExponentMark e = true)
    (sign : s = '+' ∨ s = '-') (first : isDigit c = true) (rest : AllDigits cs) :
    Exponent (e :: s :: c :: cs)

/-- A numeral without its sign. -/
inductive Unsigned : List Char → Prop
  | of {whole fraction exponent : List Char} (w : Whole whole) (f : Fraction fraction)
    (e : Exponent exponent) : Unsigned (whole ++ (fraction ++ exponent))

/-- What follows a numeral does not go on with it. -/
def Bounded (cs : List Char) : Prop :=
  ∀ c ∈ cs.head?, isDigit c = false ∧ c ≠ '.' ∧ isExponentMark c = false

/-! ### Strings -/

/-- The character stands for itself in a string. -/
def IsPlain (c : Char) : Prop := c ≠ '"' ∧ c ≠ '\\' ∧ isControl c = false

/-- Four hexadecimal digits of a number. -/
def Hex (n : Nat) (cs : List Char) : Prop :=
  ∃ a b c d va vb vc vd, cs = [a, b, c, d] ∧ hexValue? a = some va ∧ hexValue? b = some vb ∧
    hexValue? c = some vc ∧ hexValue? d = some vd ∧ n = ((va * 16 + vb) * 16 + vc) * 16 + vd

/-- What stands between the quotation marks spells the characters of a text. -/
inductive Spells : List Char → List Char → Prop
  | nil : Spells [] []
  | plain {c : Char} {cs s : List Char} (plain : IsPlain c) (rest : Spells cs s) :
    Spells (c :: cs) (c :: s)
  | letter {e c : Char} {cs s : List Char} (known : escaped? e = some c) (rest : Spells cs s) :
    Spells ('\\' :: e :: cs) (c :: s)
  | unit {n : Nat} {hex cs s : List Char} (spelt : Hex n hex) (high : isHighHalf n = false)
    (low : isLowHalf n = false) (rest : Spells cs s) :
    Spells ('\\' :: 'u' :: (hex ++ cs)) (Char.ofNat n :: s)
  /-- The two halves of a surrogate pair. -/
  | pair {h l : Nat} {hex hex' cs s : List Char} (spelt : Hex h hex) (high : isHighHalf h = true)
    (spelt' : Hex l hex') (low : isLowHalf l = true) (rest : Spells cs s) :
    Spells ('\\' :: 'u' :: (hex ++ '\\' :: 'u' :: (hex' ++ cs)))
      (Char.ofNat (0x10000 + (h - 0xD800) * 0x400 + (l - 0xDC00)) :: s)

/-- What may stand between the quotation marks of a string. -/
inductive Chars : List Char → Prop
  | nil : Chars []
  | plain {c : Char} {cs : List Char} (plain : IsPlain c) (rest : Chars cs) : Chars (c :: cs)
  | letter {e c : Char} {cs : List Char} (known : escaped? e = some c) (rest : Chars cs) :
    Chars ('\\' :: e :: cs)
  | unit {n : Nat} {hex cs : List Char} (spelt : Hex n hex) (rest : Chars cs) :
    Chars ('\\' :: 'u' :: (hex ++ cs))

/-- A string in its quotation marks, in front of the rest of a text. -/
def quoted (cs rest : List Char) : List Char := '"' :: (cs ++ '"' :: rest)

/-! ### Values -/

/-- What is derived. -/
inductive Phrase where
  | value
  /-- The elements of a list that has some, with the blanks around them. -/
  | elements
  /-- The members of a record that has some, with the blanks around them. -/
  | members

/-- The text is such a phrase. -/
inductive Valid : Phrase → List Char → Prop
  | null : Valid .value ['n', 'u', 'l', 'l']
  | yes : Valid .value ['t', 'r', 'u', 'e']
  | no : Valid .value ['f', 'a', 'l', 's', 'e']
  | unsigned {cs : List Char} (u : Unsigned cs) : Valid .value cs
  | negative {cs : List Char} (u : Unsigned cs) : Valid .value ('-' :: cs)
  | text {cs : List Char} (chars : Chars cs) : Valid .value (quoted cs [])
  | emptyList {ws : List Char} (blank : Blank ws) : Valid .value ('[' :: (ws ++ [']']))
  | list {cs : List Char} (elements : Valid .elements cs) : Valid .value ('[' :: (cs ++ [']']))
  | emptyRecord {ws : List Char} (blank : Blank ws) : Valid .value ('\x7b' :: (ws ++ ['\x7d']))
  | record {cs : List Char} (members : Valid .members cs) :
    Valid .value ('\x7b' :: (cs ++ ['\x7d']))
  | lastElement {v before after : List Char} (left : Blank before) (value : Valid .value v)
    (right : Blank after) : Valid .elements (before ++ (v ++ after))
  | element {v cs before after : List Char} (left : Blank before) (value : Valid .value v)
    (right : Blank after) (more : Valid .elements cs) :
    Valid .elements (before ++ (v ++ (after ++ ',' :: cs)))
  | lastMember {name v ws₁ ws₂ ws₃ ws₄ : List Char} (b₁ : Blank ws₁) (chars : Chars name)
    (b₂ : Blank ws₂) (b₃ : Blank ws₃) (value : Valid .value v) (b₄ : Blank ws₄) :
    Valid .members (ws₁ ++ quoted name (ws₂ ++ ':' :: (ws₃ ++ (v ++ ws₄))))
  | member {name v cs ws₁ ws₂ ws₃ ws₄ : List Char} (b₁ : Blank ws₁) (chars : Chars name)
    (b₂ : Blank ws₂) (b₃ : Blank ws₃) (value : Valid .value v) (b₄ : Blank ws₄)
    (more : Valid .members cs) :
    Valid .members (ws₁ ++ quoted name (ws₂ ++ ':' :: (ws₃ ++ (v ++ (ws₄ ++ ',' :: cs)))))

end TaskWatch.Json
