import Mathlib.Data.List.DropRight
import TaskWatch.Text.Blank

/-! What trimming leaves of a text: all of it but the blanks around it. -/

namespace TaskWatch.Text

/-- The text is the message with nothing but blanks around it, and the message neither begins nor ends
    with one. -/
structure Trims (s message : String) : Prop where
  around : ∃ before after : List Char, (∀ c ∈ before, isBlank c = true) ∧
    (∀ c ∈ after, isBlank c = true) ∧ s.toList = before ++ (message.toList ++ after)
  first : ∀ c ∈ message.toList.head?, isBlank c = false
  last : ∀ c ∈ message.toList.getLast?, isBlank c = false

variable {cs : List Char}

theorem trimStart_first : ∀ c ∈ (trimStart cs).head?, isBlank c = false := by
  intro c first
  have stop := List.head?_dropWhile_not isBlank cs
  rw [trimStart] at first
  simpa [Option.mem_def.mp first] using stop

theorem trimEnd_last : ∀ c ∈ (trimEnd cs).getLast?, isBlank c = false := by
  intro c last
  rw [trimEnd, List.getLast?_reverse] at last
  exact trimStart_first c last

/-- What begins with no blank still does once the blanks at its end are gone. -/
theorem trimEnd_first (first : ∀ c ∈ cs.head?, isBlank c = false) :
    ∀ c ∈ (trimEnd cs).head?, isBlank c = false := by
  intro c listed
  obtain ⟨after, split⟩ : trimEnd cs <+: cs := List.rdropWhile_prefix isBlank cs
  rw [← split] at first
  exact first c (by rw [List.head?_append, Option.mem_def.mp listed]; rfl)

theorem trimStart_split (cs : List Char) :
    ∃ before, (∀ c ∈ before, isBlank c = true) ∧ cs = before ++ trimStart cs :=
  ⟨cs.takeWhile isBlank, fun _ listed => List.mem_takeWhile_imp listed,
    List.takeWhile_append_dropWhile.symm⟩

theorem trimEnd_split (cs : List Char) :
    ∃ after, (∀ c ∈ after, isBlank c = true) ∧ cs = trimEnd cs ++ after := by
  obtain ⟨after, blank, split⟩ := trimStart_split cs.reverse
  refine ⟨after.reverse, fun c listed => blank c (List.mem_reverse.mp listed), ?_⟩
  rw [trimEnd, ← List.reverse_append, ← trimStart, ← split, List.reverse_reverse]

theorem trims_trimmed (s : String) : Trims s (trimmed s) := by
  obtain ⟨before, blank, front⟩ := trimStart_split s.toList
  obtain ⟨after, blank', back⟩ := trimEnd_split (trimStart s.toList)
  have message : (trimmed s).toList = trimEnd (trimStart s.toList) := String.toList_ofList ..
  refine ⟨⟨before, after, blank, blank', ?_⟩, ?_, ?_⟩
  · rw [message, ← back, ← front]
  · rw [message]
    exact trimEnd_first trimStart_first
  · rw [message]
    exact trimEnd_last

/-- What is dropped from the end, and no more than that. -/
theorem rdropWhile_append {p : Char → Bool} {after : List Char}
    (last : ∀ c ∈ cs.getLast?, p c = false) (all : ∀ c ∈ after, p c = true) :
    (cs ++ after).rdropWhile p = cs := by
  rw [List.rdropWhile, List.reverse_append,
    List.dropWhile_append_of_pos fun c listed => all c (List.mem_reverse.mp listed)]
  cases reversed : cs.reverse with
  | nil => exact (List.reverse_eq_nil_iff.mp reversed).symm
  | cons c rest =>
    have stop : p c = false := last c (by rw [← List.head?_reverse, reversed]; rfl)
    rw [List.dropWhile_cons_of_neg (by simp [stop]), ← reversed, List.reverse_reverse]

/-- There is one way to take away the blanks around a text. -/
theorem Trims.eq_trimmed {s message : String} (trims : Trims s message) : message = trimmed s := by
  obtain ⟨before, after, blank, blank', split⟩ := trims.around
  have inner : trimEnd (trimStart (message.toList ++ after)) = message.toList := by
    cases parts : message.toList with
    | nil =>
      have gone : trimStart after = [] := List.dropWhile_eq_nil_iff.mpr blank'
      rw [List.nil_append, gone]
      rfl
    | cons c rest =>
      have stop : isBlank c = false := trims.first c (by rw [parts]; rfl)
      rw [trimStart, List.cons_append, List.dropWhile_cons_of_neg (by simp [stop]),
        ← List.cons_append, ← parts]
      exact rdropWhile_append trims.last blank'
  rw [trimmed, trim, split, trimStart, List.dropWhile_append_of_pos blank, ← trimStart, inner,
    String.ofList_toList]

end TaskWatch.Text
