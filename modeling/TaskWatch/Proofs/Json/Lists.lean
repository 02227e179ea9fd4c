import TaskWatch.Proofs.Json.Objects

/-! Lists that are read element by element.

    A list holds the texts of values (`IsList`), with commas and blanks between them. Whatever each of
    them is read as, the list is read as the list of that. -/

namespace TaskWatch.Json

/-- One value or more, with commas between them. -/
inductive AreElements : List String → List Char → Prop
  | last {v : String} {before after : List Char} (b : Blank before) (a : Blank after) :
    AreElements [v] (before ++ (v.toList ++ after))
  | more {v : String} {vs : List String} {cs before after : List Char} (b : Blank before)
    (a : Blank after) (others : AreElements vs cs) :
    AreElements (v :: vs) (before ++ (v.toList ++ (after ++ ',' :: cs)))

/-- The text is a list that holds these values in this order. -/
inductive IsList : List String → List Char → Prop
  | nothing {ws : List Char} (b : Blank ws) : IsList [] ('[' :: (ws ++ [']']))
  | elements {vs : List String} {cs : List Char} (elements : AreElements vs cs) :
    IsList vs ('[' :: (cs ++ [']']))

/-- The text begins with a character that is no blank and does not end a list. -/
def Begins (cs : List Char) : Prop := ∃ c more, cs = c :: more ∧ isSpace c = false ∧ c ≠ ']'

variable {α : Type} {cs rest ws before after : List Char} {v l : String} {vs : List String} {a : α}
  {as : List α} {read : Reader α}

/-! ### Lists that are written -/

theorem areElements_intercalate :
    ∀ {vs : List String}, vs ≠ [] → AreElements vs (",".intercalate vs).toList
  | [], some_value => (some_value rfl).elim
  | [v], _ => by
    rw [String.intercalate_singleton]
    simpa using AreElements.last (v := v) blank_nil blank_nil
  | v :: w :: vs, _ => by
    have others := areElements_intercalate (List.cons_ne_nil w vs)
    have comma : ",".toList = [','] := rfl
    rw [String.intercalate_cons_of_ne_nil (List.cons_ne_nil w vs), String.toList_append,
      String.toList_append, comma]
    simpa using AreElements.more (v := v) blank_nil blank_nil others

theorem isList_list (vs : List String) : IsList vs (list vs).toList := by
  rw [list, String.toList_append, String.toList_append]
  cases vs with
  | nil => exact .nothing blank_nil
  | cons v vs => simpa using IsList.elements (areElements_intercalate (List.cons_ne_nil v vs))

/-! ### Reading -/

open Filling (lead)

/-- Another element follows, where one does. -/
theorem moreElements_lead (first : Bool) (blank : Blank ws) (b : Blank before) (begins : Begins cs)
    (rest : List Char) :
    moreElements first (ws ++ (lead first ++ (before ++ (cs ++ rest)))) = .ok (true, cs ++ rest) := by
  obtain ⟨c, more, rfl, token, other⟩ := begins
  cases first with
  | true =>
    rw [moreElements, skipSpace_blank blank, lead, if_pos rfl, List.nil_append, skipSpace_blank b,
      List.cons_append, skipSpace_cons token]
    simp [other]
  | false =>
    rw [moreElements, skipSpace_blank blank, lead, if_neg Bool.false_ne_true, List.singleton_append,
      skipSpace_cons (by decide)]
    simp [skipSpace_blank b, skipSpace_cons token, other]

/-- One element is read with what stands in front of it. -/
theorem readElements_next (reads : Reads read v a) (begins : Begins v.toList) (fuel : Nat)
    (done : List α) (blank : Blank ws) (b : Blank before) (bounded : Bounded rest) :
    readElements read (fuel + 1) done
        (ws ++ (lead done.isEmpty ++ (before ++ (v.toList ++ rest)))) =
      readElements read fuel (a :: done) rest := by
  have value := reads [] rest blank_nil bounded
  rw [readElements, moreElements_lead _ blank b begins]
  simp only [bind, Except.bind, if_true]
  rw [List.nil_append] at value
  rw [value]

/-- No element follows when the list ends. -/
theorem readElements_end (read : Reader α) (fuel : Nat) (done : List α) (blank : Blank ws)
    (rest : List Char) :
    readElements read (fuel + 1) done (ws ++ ']' :: rest) = .ok (done.reverse, rest) := by
  rw [readElements, moreElements, skipSpace_blank blank, skipSpace_cons (by decide)]
  rfl

/-- All elements are read, one after another. -/
theorem readElements_all (elements : AreElements vs cs) :
    ∀ {as : List α} (fuel : Nat) (done : List α) {ws : List Char} (rest : List Char), Blank ws →
      List.Forall₂ (Reads read) vs as → (∀ v ∈ vs, Begins v.toList) → cs.length < fuel →
      readElements read fuel done (ws ++ (lead done.isEmpty ++ (cs ++ ']' :: rest))) =
        .ok (done.reverse ++ as, rest) := by
  induction elements with
  | @last v before after b ba =>
    intro as fuel done ws rest blank reads begins enough
    cases reads with
    | @cons _ a _ _ reads others =>
      cases others
      have begin := begins v (List.mem_cons_self ..)
      have some_text : 0 < v.toList.length := by
        obtain ⟨c, more, text, -⟩ := begin
        simp [text]
      simp only [List.length_append] at enough
      obtain ⟨fuel, rfl⟩ : ∃ n, fuel = n + 2 := ⟨fuel - 2, by omega⟩
      simp only [List.append_assoc]
      rw [readElements_next reads begin (fuel + 1) done blank b
        (bounded_blank ba (bounded_bracket rest)), readElements_end read fuel _ ba]
      simp
  | @more v vs cs before after b ba _ ih =>
    intro as fuel done ws rest blank reads begins enough
    cases reads with
    | @cons _ a _ as reads others =>
      simp only [List.length_append, List.length_cons] at enough
      obtain ⟨fuel, rfl⟩ : ∃ n, fuel = n + 1 := ⟨fuel - 1, by omega⟩
      simp only [List.append_assoc, List.cons_append]
      rw [readElements_next reads (begins v (List.mem_cons_self ..)) fuel done blank b
        (bounded_blank ba (bounded_comma _))]
      have later := ih fuel (a :: done) rest ba others
        (fun w listed => begins w (List.mem_cons_of_mem _ listed)) (by omega)
      simpa [lead] using later

/-- A list is read, if each of its values is. -/
theorem reads_list (isList : IsList vs l.toList) (reads : List.Forall₂ (Reads read) vs as)
    (begins : ∀ v ∈ vs, Begins v.toList) : Reads (readList read) l as := by
  intro ws rest blank _
  generalize l.toList = text at isList
  cases isList with
  | nothing b =>
    cases reads
    rw [readList, skipSpace_blank blank, List.cons_append, skipSpace_cons (by decide),
      List.append_assoc]
    exact readElements_end read _ [] b rest
  | @elements _ cs elements =>
    rw [readList, skipSpace_blank blank, List.cons_append, skipSpace_cons (by decide),
      List.append_assoc]
    exact readElements_all elements _ [] rest blank_nil reads begins
      (by simp only [List.length_append]; omega)

end TaskWatch.Json
