import Mathlib.Data.List.Nodup
import TaskWatch.Proofs.Form.Rules
import TaskWatch.Proofs.Text.Integers
import TaskWatch.Proofs.Text.Trimmed

/-! The schema of the form: what it accepts, and what is told at each field.

    The schema is written down here without a word on how the form is checked. The priority enters
    an integer if that is what is left of it without the blanks around it, however many digits it has
    (`Form.Enters`), and each field has one rule that it keeps or violates (`Form.Violates`). The
    check reads integers of 64 bits only. Whether a form is accepted does not hang on that, for no
    larger one is a priority, but what is told at the priority does. -/

namespace TaskWatch.Form

open Text Numeric

variable {cs : List Char} {form : Form} {m n : Int} {f : Field} {vs : List Violation}

/-- The integer that is entered as the priority. -/
def Enters (form : Form) (n : Int) : Prop :=
  ∃ entry, Trims form.priority entry ∧ Denotes entry.toList n

/-- The rule of a field is violated. -/
def Violates (form : Form) : Field → Prop
  | .name => form.name.length < 3
  | .kind => form.kind = none
  | .priority => ∀ n, form.Enters n → n < 1 ∨ 10 < n

/-! ### Reading the number -/

/-- The number of a run of digits, if it is one. -/
def unsigned? (ds : List Char) : Option Nat :=
  if !ds.isEmpty && ds.all isDigit then some (number ds) else none

/-- The integer that a sign and digits write, of any size. -/
def signed? : List Char → Option Int
  | '+' :: ds => (unsigned? ds).map Int.ofNat
  | '-' :: ds => (unsigned? ds).map (fun n => -(n : Int))
  | ds => (unsigned? ds).map Int.ofNat

theorem wholeNumber?_eq (cs : List Char) : wholeNumber? cs = (signed? cs).filter (fitsWord 64) := rfl

theorem signed?_minus (ds : List Char) :
    signed? ('-' :: ds) = (unsigned? ds).map (fun k : Nat => -(k : Int)) := by
  show ((unsigned? ds).bind fun k => some (k : Int)).map (fun k => -k) = _
  cases unsigned? ds <;> rfl

theorem unsigned?_eq_some {ds : List Char} {k : Nat} :
    unsigned? ds = some k ↔ AllDigits ds ∧ ds ≠ [] ∧ placeValue ds = k := by
  have run : (!ds.isEmpty && ds.all isDigit) = true ↔ AllDigits ds ∧ ds ≠ [] := by
    simp [AllDigits, and_comm]
  rw [unsigned?, number_eq_placeValue, ← and_assoc, ← run]
  split <;> simp_all

theorem signed?_eq_some : signed? cs = some n ↔ Denotes cs n := by
  constructor
  · intro read
    have run {ds : List Char} {g : Nat → Int} (read : (unsigned? ds).map g = some n) :
        AllDigits ds ∧ ds ≠ [] ∧ g (placeValue ds) = n := by
      obtain ⟨k, run, value⟩ := Option.map_eq_some_iff.mp read
      obtain ⟨digits, some, rfl⟩ := unsigned?_eq_some.mp run
      exact ⟨digits, some, value⟩
    unfold signed? at read
    split at read
    · obtain ⟨digits, some, rfl⟩ := run read
      exact .plus digits some
    · obtain ⟨digits, some, rfl⟩ := run ((signed?_minus _).symm.trans read)
      exact .minus digits some
    · obtain ⟨digits, some, rfl⟩ := run read
      exact .bare digits some
  · intro denotes
    cases denotes with
    | bare digits some =>
      unfold signed?
      split
      · exact absurd rfl digits.head_ne_sign.1
      · exact absurd rfl digits.head_ne_sign.2
      · rw [unsigned?_eq_some.mpr ⟨digits, some, rfl⟩]
        rfl
    | plus digits some => rw [signed?, unsigned?_eq_some.mpr ⟨digits, some, rfl⟩]; rfl
    | minus digits some => rw [signed?_minus, unsigned?_eq_some.mpr ⟨digits, some, rfl⟩]; rfl

theorem fitsWord_iff : fitsWord 64 n = true ↔ -2 ^ 63 ≤ n ∧ n < 2 ^ 63 := by
  have bound : ((twoTo (64 - 1) : Nat) : Int) = 2 ^ 63 := by decide
  simp only [fitsWord, bound, Bool.and_eq_true, decide_eq_true_eq]
  exact and_comm

theorem enters_iff : form.Enters n ↔ Denotes (trim form.priority.toList) n := by
  have trimmed : (trimmed form.priority).toList = trim form.priority.toList :=
    String.toList_ofList ..
  constructor
  · rintro ⟨entry, trims, denotes⟩
    rwa [trims.eq_trimmed, trimmed] at denotes
  · intro denotes
    exact ⟨_, trims_trimmed form.priority, trimmed ▸ denotes⟩

/-- One integer is entered at most. -/
theorem Enters.unique (entered : form.Enters m) (entered' : form.Enters n) : m = n :=
  (enters_iff.mp entered).unique (enters_iff.mp entered')

/-- The number that is read is the one that is entered, if 64 bits hold it. -/
theorem number?_eq_some : form.number? = some n ↔ form.Enters n ∧ -2 ^ 63 ≤ n ∧ n < 2 ^ 63 := by
  rw [number?, wholeNumber?_eq, Option.filter_eq_some_iff, signed?_eq_some, ← enters_iff,
    fitsWord_iff]

/-- No number is read just when none is entered that 64 bits hold. -/
theorem number?_eq_none :
    form.number? = none ↔ ∀ n, form.Enters n → n < -2 ^ 63 ∨ 2 ^ 63 ≤ n := by
  rw [Option.eq_none_iff_forall_ne_some]
  refine forall_congr' fun n => ?_
  rw [ne_eq, number?_eq_some, not_and]
  exact imp_congr_right fun _ => by omega

/-! ### Field by field -/

/-- The fields that something is told at are those whose rule is violated. -/
theorem mem_fields : f ∈ form.violations.map (·.field) ↔ form.Violates f := by
  simp only [List.mem_map, mem_violations]
  constructor
  · rintro ⟨v, breaks, rfl⟩
    cases breaks with
    | short short => exact short
    | unselected unselected => exact unselected
    | unspelt unspelt =>
      intro n entered
      have outside := number?_eq_none.mp unspelt n entered
      omega
    | low spelt low =>
      intro n entered
      obtain rfl := entered.unique (number?_eq_some.mp spelt).1
      exact .inl low
    | high spelt high =>
      intro n entered
      obtain rfl := entered.unique (number?_eq_some.mp spelt).1
      exact .inr high
  · intro violated
    cases f with
    | name => exact ⟨_, .short violated, rfl⟩
    | kind => exact ⟨_, .unselected violated, rfl⟩
    | priority =>
      cases read : form.number? with
      | none => exact ⟨_, .unspelt read, rfl⟩
      | some n =>
        rcases violated n (number?_eq_some.mp read).1 with low | high
        · exact ⟨_, .low read low, rfl⟩
        · exact ⟨_, .high read high, rfl⟩

instance (form : Form) : DecidablePred form.Violates := fun _ => decidable_of_iff _ mem_fields

theorem nodup_fields (form : Form) : (form.violations.map (·.field)).Nodup :=
  form.fields_violations.nodup (by decide)

/-- Something is told at each field whose rule is violated, once, and in the order of the fields. -/
theorem fields_eq_filter (form : Form) :
    form.violations.map (·.field) = Field.all.filter (form.Violates ·) := by
  have violated : ∀ f ∈ form.violations.map (·.field), decide (form.Violates f) = true :=
    fun f told => decide_eq_true (mem_fields.mp told)
  have sub := form.fields_violations.filter (form.Violates ·)
  rw [List.filter_eq_self.mpr violated] at sub
  refine sub.eq_of_length (List.Perm.length_eq ?_)
  rw [List.perm_ext_iff_of_nodup form.nodup_fields (List.Nodup.filter _ (by decide))]
  intro f
  have listed : f ∈ Field.all := by cases f <;> decide
  simp [mem_fields, listed]

/-- Where each field has one violation at most, the message at a field is that of its violation. -/
theorem messageFor_eq_some {message : String} (once : (vs.map (·.field)).Nodup) :
    Violations.messageFor vs f = some message ↔ (⟨f, message⟩ : Violation) ∈ vs := by
  rw [Violations.messageFor, Option.map_eq_some_iff]
  constructor
  · rintro ⟨v, found, rfl⟩
    have field : v.field = f := by simpa using List.find?_some found
    exact field ▸ List.mem_of_find?_eq_some found
  · intro told
    cases found : vs.find? (·.field == f) with
    | none => simpa using List.find?_eq_none.mp found _ told
    | some v =>
      have field : v.field = f := by simpa using List.find?_some found
      have same : v = ⟨f, message⟩ :=
        List.inj_on_of_nodup_map once (List.mem_of_find?_eq_some found) told field
      exact ⟨v, rfl, congrArg (·.message) same⟩

theorem violations_of_ok {r : Request} (valid : form.validate = .ok r) : form.violations = [] := by
  unfold validate at valid
  split at valid
  · assumption
  · simp at valid

/-- What is shown at a field after the form was checked is what it breaks there. -/
theorem messageFor_validate {e : Editor} {message : String} :
    e.validate.messageFor f = some message ↔ e.form.Breaks ⟨f, message⟩ := by
  have shown : e.validate.messageFor f = Violations.messageFor e.form.violations f := by
    unfold Editor.validate
    split
    · rename_i valid
      rw [violations_of_ok valid]
      rfl
    · rename_i rejected
      rw [← (validate_error rejected).1]
      rfl
  rw [shown, messageFor_eq_some e.form.nodup_fields, mem_violations]

/-- The form is accepted just when no rule is violated. -/
theorem accepted_iff : (∃ r, form.validate = .ok r) ↔ ∀ f, ¬ form.Violates f := by
  have empty : (∀ f, ¬ form.Violates f) ↔ form.violations = [] := by
    simp only [← mem_fields, ← List.eq_nil_iff_forall_not_mem, List.map_eq_nil_iff]
  rw [empty]
  constructor
  · rintro ⟨r, valid⟩
    exact violations_of_ok valid
  · intro clean
    cases answer : form.validate with
    | ok r => exact ⟨r, rfl⟩
    | error vs =>
      obtain ⟨rfl, broken⟩ := validate_error answer
      exact absurd clean broken

/-! ### The schema -/

/-- The form is accepted just when the name has three characters, a kind is selected, and an integer
    from 1 to 10 is entered as the priority, with any number of digits. The request says what the
    form says. Of any other form something is told at each field whose rule is violated, and at no
    other, once and in the order of the fields, and the message at a field is that one. -/
theorem validates_by_schema (form : Form) :
    ((∃ r, form.validate = .ok r) ↔
      3 ≤ form.name.length ∧ (∃ k, form.kind = some k) ∧ ∃ n, form.Enters n ∧ 1 ≤ n ∧ n ≤ 10) ∧
    (∀ r, form.validate = .ok r →
      r.name = form.name ∧ form.kind = some r.kind ∧ form.Enters r.priority.toNat) ∧
    ∀ vs, form.validate = .error vs →
      vs.map (·.field) = Field.all.filter (form.Violates ·) ∧
      (∀ v ∈ vs, Violations.messageFor vs v.field = some v.message) ∧
      ∀ f, (∃ message, Violations.messageFor vs f = some message) ↔ form.Violates f := by
  refine ⟨?_, fun r valid => ?_, fun vs rejected => ?_⟩
  · have fields : (∀ f, ¬ form.Violates f) ↔ ¬ form.Violates .name ∧ ¬ form.Violates .kind ∧
        ¬ form.Violates .priority :=
      ⟨fun kept => ⟨kept _, kept _, kept _⟩,
        fun ⟨name, kind, priority⟩ f => by cases f <;> assumption⟩
    rw [accepted_iff, fields]
    refine and_congr Nat.not_lt (and_congr Option.ne_none_iff_exists' ?_)
    simp only [Violates, not_forall, not_or, Int.not_lt, exists_prop]
  · have makes := validate_ok.mp valid
    exact ⟨makes.name, makes.kind, (number?_eq_some.mp makes.priority).1⟩
  · obtain ⟨rfl, -⟩ := validate_error rejected
    refine ⟨form.fields_eq_filter, fun v told => (messageFor_eq_some form.nodup_fields).mpr told,
      fun f => ?_⟩
    simp only [messageFor_eq_some form.nodup_fields, ← mem_fields, List.mem_map]
    exact ⟨fun ⟨message, told⟩ => ⟨_, told, rfl⟩, fun ⟨v, told, field⟩ => ⟨v.message, field ▸ told⟩⟩

/-- Neither blanks nor a sign nor any number of zeros in front make a difference. A form that
    violates every rule is told so at every field. -/
theorem leading_zeros_accepted :
    let form : Form := ⟨"né🚀", some .report, "\u3000+0000000000000000000000000000000010\u00a0"⟩
    let form' : Form := ⟨"ab", none, "1 1"⟩
    form.validate = .ok ⟨"né🚀", .report, 10⟩ ∧ form.Enters 10 ∧
    ∃ vs, form'.validate = .error vs ∧ vs.map (·.field) = [.name, .kind, .priority] ∧
      ∃ message, Violations.messageFor vs .kind = some message := by
  intro form form'
  have valid : form.validate = .ok ⟨"né🚀", .report, 10⟩ := by decide +kernel
  have rejected : form'.validate = .error form'.violations := by decide +kernel
  obtain ⟨-, request, -⟩ := validates_by_schema form
  obtain ⟨-, -, errors⟩ := validates_by_schema form'
  obtain ⟨fields, -, told⟩ := errors _ rejected
  refine ⟨valid, (request _ valid).2.2, _, rejected, fields.trans ?_, (told .kind).mpr rfl⟩
  decide +kernel

/-- What is told at the priority hangs on the number that is entered alone, as long as 64 bits hold
    it. That it is no whole number is told just when none is entered that 64 bits hold. -/
theorem priority_told_by_number (e : Editor) :
    (∀ n, e.form.Enters n → -2 ^ 63 ≤ n → n < 2 ^ 63 →
      e.validate.messageFor .priority =
        if n < 1 then some "Priority must be at least 1."
        else if 10 < n then some "Priority must be at most 10."
        else none) ∧
    (e.validate.messageFor .priority = some "Priority must be a whole number." ↔
      ∀ n, e.form.Enters n → n < -2 ^ 63 ∨ 2 ^ 63 ≤ n) := by
  constructor
  · intro n entered low high
    have spelt : e.form.number? = some n := number?_eq_some.mpr ⟨entered, low, high⟩
    split
    · rename_i low
      exact messageFor_validate.mpr (.low spelt low)
    · rename_i positive
      split
      · rename_i high
        exact messageFor_validate.mpr (.high spelt high)
      · rename_i small
        refine Option.eq_none_iff_forall_ne_some.mpr fun message told => ?_
        cases messageFor_validate.mp told with
        | unspelt unspelt => simp [spelt] at unspelt
        | low spelt' low => exact positive (Option.some.inj (spelt.symm.trans spelt') ▸ low)
        | high spelt' high => exact small (Option.some.inj (spelt.symm.trans spelt') ▸ high)
  · rw [messageFor_validate, ← number?_eq_none]
    refine ⟨fun breaks => ?_, fun unspelt => .unspelt unspelt⟩
    generalize same : (⟨.priority, "Priority must be a whole number."⟩ : Violation) = v at breaks
    cases breaks with
    | short => simp at same
    | unselected => simp at same
    | unspelt unspelt => exact unspelt
    | low => simp at same
    | high => simp at same

/-- The least number that 64 bits hold is too low, and one with many zeros in front too high. -/
theorem least_word_too_low :
    let e : Editor := { form := { Form.fresh with priority := " -9223372036854775808" } }
    let e' : Editor := { form := { Form.fresh with priority := "+00000000000000000000000000011" } }
    (e.form.Enters (-2 ^ 63) ∧
      e.validate.messageFor .priority = some "Priority must be at least 1.") ∧
    e'.form.Enters 11 ∧ e'.validate.messageFor .priority = some "Priority must be at most 10." := by
  intro e e'
  have entered : e.form.Enters (-2 ^ 63) := enters_iff.mpr (signed?_eq_some.mp (by decide +kernel))
  have entered' : e'.form.Enters 11 := enters_iff.mpr (signed?_eq_some.mp (by decide +kernel))
  obtain ⟨told, -⟩ := priority_told_by_number e
  obtain ⟨told', -⟩ := priority_told_by_number e'
  exact ⟨⟨entered, told _ entered (by decide) (by decide)⟩,
    entered', told' _ entered' (by decide) (by decide)⟩

/-- A whole number far above 10, which 64 bits do not hold, is told to be none. -/
theorem huge_number_called_none :
    let e : Editor := { form := { Form.fresh with priority := "9223372036854775808" } }
    e.form.Enters (2 ^ 63) ∧ (10 : Int) < 2 ^ 63 ∧
      e.validate.messageFor .priority = some "Priority must be a whole number." ∧
      e.validate.messageFor .priority ≠ some "Priority must be at most 10." :=
  ⟨enters_iff.mpr (signed?_eq_some.mp (by decide +kernel)), by decide, by decide +kernel,
    by decide +kernel⟩

end TaskWatch.Form
