import Mathlib.Data.List.Forall2

/-! Shuffled lists.

    A list is shuffled from two others if each of its elements goes with the next element of one or the
    other. What is done alike to all three lists leaves the first shuffled from the others, and what
    passes over one of the others is done to the remaining two alone. -/

namespace TaskWatch

variable {α β γ α' β' γ' : Type}

/-- The first list is shuffled from the second, whose elements go with its elements by `R`, and the
    third, whose elements do by `Q`. -/
inductive Shuffle (R : α → β → Prop) (Q : α → γ → Prop) : List α → List β → List γ → Prop
  | nil : Shuffle R Q [] [] []
  | left {x : α} {y : β} {xs : List α} {ys : List β} {zs : List γ} (goes : R x y)
      (rest : Shuffle R Q xs ys zs) : Shuffle R Q (x :: xs) (y :: ys) zs
  | right {x : α} {z : γ} {xs : List α} {ys : List β} {zs : List γ} (goes : Q x z)
      (rest : Shuffle R Q xs ys zs) : Shuffle R Q (x :: xs) ys (z :: zs)

namespace Shuffle

variable {R : α → β → Prop} {Q : α → γ → Prop} {U : α' → β' → Prop} {V : α' → γ' → Prop}
  {xs xs' : List α} {ys ys' : List β} {zs zs' : List γ}

/-- The two lists can change places. -/
theorem swap (h : Shuffle R Q xs ys zs) : Shuffle Q R xs zs ys := by
  induction h with
  | nil => exact .nil
  | left goes _ ih => exact .right goes ih
  | right goes _ ih => exact .left goes ih

theorem append (h : Shuffle R Q xs ys zs) (h' : Shuffle R Q xs' ys' zs') :
    Shuffle R Q (xs ++ xs') (ys ++ ys') (zs ++ zs') := by
  induction h with
  | nil => exact h'
  | left goes _ ih => exact .left goes ih
  | right goes _ ih => exact .right goes ih

/-- A shuffled list grows by an element that goes with a new one of the second list. -/
theorem snoc (h : Shuffle R Q xs ys zs) {x : α} {y : β} (goes : R x y) :
    Shuffle R Q (xs ++ [x]) (ys ++ [y]) zs := by
  have grown := h.append (.left goes .nil)
  rwa [List.append_nil] at grown

theorem map (h : Shuffle R Q xs ys zs) {f : α → α'} {g : β → β'} {k : γ → γ'}
    (left : ∀ x y, R x y → U (f x) (g y)) (right : ∀ x z, Q x z → V (f x) (k z)) :
    Shuffle U V (xs.map f) (ys.map g) (zs.map k) := by
  induction h with
  | nil => exact .nil
  | left goes _ ih => exact .left (left _ _ goes) ih
  | right goes _ ih => exact .right (right _ _ goes) ih

theorem imp {U : α → β → Prop} {V : α → γ → Prop} (h : Shuffle R Q xs ys zs)
    (left : ∀ x y, R x y → U x y) (right : ∀ x z, Q x z → V x z) : Shuffle U V xs ys zs := by
  have mapped := h.map (f := id) (g := id) (k := id) left right
  rwa [List.map_id, List.map_id, List.map_id] at mapped

theorem filter (h : Shuffle R Q xs ys zs) {p : α → Bool} {q : β → Bool} {r : γ → Bool}
    (left : ∀ x y, R x y → p x = q y) (right : ∀ x z, Q x z → p x = r z) :
    Shuffle R Q (xs.filter p) (ys.filter q) (zs.filter r) := by
  induction h with
  | nil => exact .nil
  | @left x y _ _ _ goes _ ih =>
    rw [List.filter_cons, List.filter_cons, left x y goes]
    split
    · exact .left goes ih
    · exact ih
  | @right x z _ _ _ goes _ ih =>
    rw [List.filter_cons, List.filter_cons (x := z), right x z goes]
    split
    · exact .right goes ih
    · exact ih

/-- Nothing of the third list is dropped. -/
theorem filter_left (h : Shuffle R Q xs ys zs) {p : α → Bool} {q : β → Bool}
    (left : ∀ x y, R x y → p x = q y) (right : ∀ x z, Q x z → p x = true) :
    Shuffle R Q (xs.filter p) (ys.filter q) zs := by
  have kept := h.filter (r := fun _ => true) left right
  rwa [List.filter_eq_self.mpr fun _ _ => rfl] at kept

/-- What is looked for is not found in the third list. -/
theorem find? (h : Shuffle R Q xs ys zs) {p : α → Bool} {q : β → Bool}
    (left : ∀ x y, R x y → p x = q y) (right : ∀ x z, Q x z → p x = false) :
    Option.Rel R (xs.find? p) (ys.find? q) := by
  induction h with
  | nil => exact .none
  | @left x y _ _ _ goes _ ih =>
    rw [List.find?_cons, List.find?_cons, left x y goes]
    cases q y with
    | true => exact .some goes
    | false => exact ih
  | @right x z _ _ _ goes _ ih =>
    rw [List.find?_cons, right x z goes]
    exact ih

theorem mem (h : Shuffle R Q xs ys zs) {x : α} (listed : x ∈ xs) :
    (∃ y ∈ ys, R x y) ∨ ∃ z ∈ zs, Q x z := by
  induction h with
  | nil => exact (List.not_mem_nil listed).elim
  | @left x' y _ _ _ goes _ ih =>
    rcases List.mem_cons.mp listed with rfl | listed
    · exact .inl ⟨y, List.mem_cons_self .., goes⟩
    · exact (ih listed).imp_left fun ⟨y, hy, goes⟩ => ⟨y, List.mem_cons_of_mem _ hy, goes⟩
  | @right x' z _ _ _ goes _ ih =>
    rcases List.mem_cons.mp listed with rfl | listed
    · exact .inr ⟨z, List.mem_cons_self .., goes⟩
    · exact (ih listed).imp_right fun ⟨z, hz, goes⟩ => ⟨z, List.mem_cons_of_mem _ hz, goes⟩

theorem mem_left (h : Shuffle R Q xs ys zs) {y : β} (listed : y ∈ ys) : ∃ x ∈ xs, R x y := by
  induction h with
  | nil => exact (List.not_mem_nil listed).elim
  | @left x y' _ _ _ goes _ ih =>
    rcases List.mem_cons.mp listed with rfl | listed
    · exact ⟨x, List.mem_cons_self .., goes⟩
    · exact (ih listed).imp fun _ h => ⟨List.mem_cons_of_mem _ h.1, h.2⟩
  | right _ _ ih => exact (ih listed).imp fun _ h => ⟨List.mem_cons_of_mem _ h.1, h.2⟩

/-- With nothing in the third list, the first two go with each other. -/
theorem nil_right_iff : Shuffle R Q xs ys [] ↔ List.Forall₂ R xs ys := by
  constructor
  · intro h
    generalize empty : ([] : List γ) = zs at h
    induction h with
    | nil => exact .nil
    | left goes _ ih => exact .cons goes (ih empty)
    | right => exact nomatch empty
  · intro h
    induction h with
    | nil => exact .nil
    | cons goes _ ih => exact .left goes ih

end Shuffle

end TaskWatch
