import Mathlib.Data.List.Induction
import Mathlib.Data.Nat.Digits.Defs
import TaskWatch.Proofs.Text.Digits

/-! Integers in decimal.

    A text denotes an integer when it is digits, as many as one likes, with a sign before them or
    without. What the digits stand for follows from their places alone (`placeValue`). How such a
    text is read is not said here: `Denotes` is what a reader is measured by. -/

namespace TaskWatch.Text

variable {cs : List Char} {m n : Int}

/-- The number that digits stand for by their places, the last of them in the place of ones. -/
def placeValue (ds : List Char) : Nat := Nat.ofDigits 10 (ds.reverse.map digitValue)

/-- The text is an integer in decimal. -/
inductive Denotes : List Char → Int → Prop
  | bare {ds : List Char} (digits : AllDigits ds) (some : ds ≠ []) : Denotes ds (placeValue ds)
  | plus {ds : List Char} (digits : AllDigits ds) (some : ds ≠ []) :
    Denotes ('+' :: ds) (placeValue ds)
  | minus {ds : List Char} (digits : AllDigits ds) (some : ds ≠ []) :
    Denotes ('-' :: ds) (-placeValue ds)

/-- Reading digits from the left gives what they stand for by their places. -/
theorem number_eq_placeValue (ds : List Char) : number ds = placeValue ds := by
  induction ds using List.reverseRecOn with
  | nil => rfl
  | append_singleton ds c ih =>
    rw [number_append, ih, placeValue, placeValue, List.reverse_concat, List.map_cons,
      Nat.ofDigits_cons, List.foldl_cons, List.foldl_nil, Nat.mul_comm, Nat.add_comm]

theorem AllDigits.head_ne_sign {c : Char} {ds : List Char} (digits : AllDigits (c :: ds)) :
    c ≠ '+' ∧ c ≠ '-' := by
  have digit : isDigit c = true := digits c (List.mem_cons_self ..)
  constructor <;> rintro rfl <;> exact absurd digit (by decide)

/-- A text denotes one integer at most. -/
theorem Denotes.unique (h : Denotes cs m) (h' : Denotes cs n) : m = n := by
  cases h with
  | bare digits =>
    cases h' with
    | bare => rfl
    | plus => exact absurd rfl digits.head_ne_sign.1
    | minus => exact absurd rfl digits.head_ne_sign.2
  | plus =>
    cases h' with
    | bare digits => exact absurd rfl digits.head_ne_sign.1
    | plus => rfl
  | minus =>
    cases h' with
    | bare digits => exact absurd rfl digits.head_ne_sign.2
    | minus => rfl

end TaskWatch.Text
