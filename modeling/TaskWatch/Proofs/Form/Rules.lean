import TaskWatch.Form.Editor

/-! What the form breaks, and what a request says.

    The rules are written down here once more, each on its own (`Form.Breaks`), and so is what it means
    that a request is the one a form stands for (`Form.Makes`). A form either breaks rules, and is
    answered with exactly those, or it stands for one request. -/

namespace TaskWatch.Form

variable {form : Form} {r : Request} {v : Violation} {vs : List Violation}

/-- The number that the priority spells. -/
def number? (form : Form) : Option Int := wholeNumber? (Text.trim form.priority.toList)

/-- The form breaks a rule, and this is what it is told. -/
inductive Breaks (form : Form) : Violation → Prop
  | short (short : form.name.length < 3) :
    Breaks form ⟨.name, "Task name must be at least 3 characters."⟩
  | unselected (unselected : form.kind = none) : Breaks form ⟨.kind, "Select a task type."⟩
  | unspelt (unspelt : form.number? = none) :
    Breaks form ⟨.priority, "Priority must be a whole number."⟩
  | low {n : Int} (spelt : form.number? = some n) (low : n < 1) :
    Breaks form ⟨.priority, "Priority must be at least 1."⟩
  | high {n : Int} (spelt : form.number? = some n) (high : 10 < n) :
    Breaks form ⟨.priority, "Priority must be at most 10."⟩

/-- The request says what the form says, and keeps the rules. -/
structure Makes (form : Form) (r : Request) : Prop where
  name : r.name = form.name
  kind : form.kind = some r.kind
  priority : form.number? = some (r.priority.toNat : Int)
  long : 3 ≤ r.name.length
  lowest : 1 ≤ r.priority.toNat
  highest : r.priority.toNat ≤ 10

/-! ### Field by field -/

theorem nameViolation?_eq (form : Form) : form.nameViolation? =
    if form.name.length < 3 then some ⟨.name, "Task name must be at least 3 characters."⟩
    else none := rfl

theorem kindViolation?_eq (form : Form) : form.kindViolation? =
    if form.kind.isNone then some ⟨.kind, "Select a task type."⟩ else none := rfl

theorem checkPriority_eq (form : Form) : form.checkPriority =
    match form.number? with
    | none => .error ⟨.priority, "Priority must be a whole number."⟩
    | some n =>
      if n < 1 then .error ⟨.priority, "Priority must be at least 1."⟩
      else if n > 10 then .error ⟨.priority, "Priority must be at most 10."⟩
      else .ok n.toNat := rfl

theorem mem_priorityViolation? : v ∈ form.priorityViolation?.toList ↔
    (form.number? = none ∧ v = ⟨.priority, "Priority must be a whole number."⟩) ∨
      ∃ n, form.number? = some n ∧ (n < 1 ∧ v = ⟨.priority, "Priority must be at least 1."⟩ ∨
        10 < n ∧ v = ⟨.priority, "Priority must be at most 10."⟩) := by
  rw [priorityViolation?, checkPriority_eq]
  cases form.number? with
  | none => simp
  | some n =>
    by_cases low : n < 1
    · have inside : ¬ 10 < n := by omega
      simp [low, inside, eq_comm]
    · by_cases high : 10 < n <;> simp [low, high, eq_comm]

theorem checkPriority_ok {k : Nat} : form.checkPriority = .ok k ↔
    form.number? = some (k : Int) ∧ 1 ≤ k ∧ k ≤ 10 := by
  rw [checkPriority_eq]
  cases form.number? with
  | none => simp
  | some n =>
    by_cases low : n < 1
    · simp [low]
      omega
    · by_cases high : 10 < n
      · simp [low, high]
        omega
      · simp [low, high]
        omega

/-- The priority breaks a rule unless it is a number that keeps them. -/
theorem priorityViolation?_eq_none : form.priorityViolation? = none ↔
    ∃ k, form.checkPriority = .ok k := by
  unfold priorityViolation?
  cases form.checkPriority <;> simp

/-! ### All fields -/

/-- Every violation is that of a rule the form breaks, and no rule it breaks is left out. -/
theorem mem_violations : v ∈ form.violations ↔ form.Breaks v := by
  rw [violations, List.mem_append, List.mem_append, mem_priorityViolation?, nameViolation?_eq,
    kindViolation?_eq]
  constructor
  · rintro ((short | unselected) | ⟨unspelt, rfl⟩ | ⟨n, spelt, ⟨low, rfl⟩ | ⟨high, rfl⟩⟩)
    · split at short
      · rename_i short'
        obtain rfl := Option.some.inj (Option.mem_toList.mp short)
        exact .short short'
      · simp at short
    · split at unselected
      · rename_i unselected'
        obtain rfl := Option.some.inj (Option.mem_toList.mp unselected)
        exact .unselected (Option.isNone_iff_eq_none.mp unselected')
      · simp at unselected
    · exact .unspelt unspelt
    · exact .low spelt low
    · exact .high spelt high
  · intro breaks
    cases breaks with
    | short short => simp [short]
    | unselected unselected => simp [unselected]
    | unspelt unspelt => exact .inr (.inl ⟨unspelt, rfl⟩)
    | low spelt low => exact .inr (.inr ⟨_, spelt, .inl ⟨low, rfl⟩⟩)
    | high spelt high => exact .inr (.inr ⟨_, spelt, .inr ⟨high, rfl⟩⟩)

/-- A field breaks one rule at most, and the violations stand in the order of the fields. -/
theorem fields_violations (form : Form) :
    (form.violations.map (·.field)).Sublist Field.all := by
  have own : ∀ v ∈ form.priorityViolation?.toList, v.field = .priority := fun v broken => by
    rcases mem_priorityViolation?.mp broken with ⟨-, rfl⟩ | ⟨n, -, ⟨-, rfl⟩ | ⟨-, rfl⟩⟩ <;> rfl
  have last : (form.priorityViolation?.toList.map (·.field)).Sublist [.priority] := by
    cases priority : form.priorityViolation? with
    | none => simp
    | some v => simp [own v (by simp [priority])]
  have first : (form.nameViolation?.toList.map (·.field)).Sublist [.name] := by
    rw [nameViolation?_eq]
    split <;> simp
  have second : (form.kindViolation?.toList.map (·.field)).Sublist [.kind] := by
    rw [kindViolation?_eq]
    split <;> simp
  rw [violations, List.map_append, List.map_append]
  exact (first.append second).append last

/-- A form that breaks nothing has a kind and a number. -/
theorem violations_eq_nil : form.violations = [] ↔
    3 ≤ form.name.length ∧ form.kind.isSome = true ∧ ∃ k, form.checkPriority = .ok k := by
  have none_of {o : Option Violation} : o.toList = [] ↔ o = none := by cases o <;> simp
  rw [violations, List.append_eq_nil_iff, List.append_eq_nil_iff, none_of, none_of, none_of,
    priorityViolation?_eq_none, nameViolation?_eq, kindViolation?_eq, and_assoc]
  simp [Option.isSome_iff_ne_none]

/-- A form stands for a request just when the request says what the form says and keeps the rules. -/
theorem validate_ok : form.validate = .ok r ↔ form.Makes r := by
  constructor
  · intro valid
    unfold validate at valid
    split at valid
    · rename_i kind n clean selected checked
      obtain rfl := Except.ok.inj valid
      obtain ⟨spelt, low, high⟩ := checkPriority_ok.mp checked
      have same : (UInt8.ofNat n).toNat = n := UInt8.toNat_ofNat_of_lt (show n < 256 by omega)
      exact ⟨rfl, selected, by rw [same, spelt], (violations_eq_nil.mp clean).1, by rw [same]; omega,
        by rw [same]; omega⟩
    · simp at valid
  · intro makes
    have checked : form.checkPriority = .ok r.priority.toNat :=
      checkPriority_ok.mpr ⟨makes.priority, makes.lowest, makes.highest⟩
    have clean : form.violations = [] := violations_eq_nil.mpr
      ⟨makes.name ▸ makes.long, by simp [makes.kind], _, checked⟩
    rw [validate, clean, makes.kind, checked]
    simp [← makes.name]

/-- A form that breaks rules is answered with all that it breaks. -/
theorem validate_error (rejected : form.validate = .error vs) : vs = form.violations ∧ vs ≠ [] := by
  have answer : vs = form.violations := by
    unfold validate at rejected
    split at rejected
    · simp at rejected
    · exact (Except.error.inj rejected).symm
  refine ⟨answer, ?_⟩
  rintro rfl
  obtain ⟨-, selected, n, checked⟩ := violations_eq_nil.mp answer.symm
  obtain ⟨kind, selected⟩ := Option.isSome_iff_exists.mp selected
  rw [validate, ← answer, selected, checked] at rejected
  simp at rejected

end TaskWatch.Form
