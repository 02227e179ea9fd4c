import TaskWatch.Cache.Key

/-! Tables from names to values, in the order in which the names were entered.

    `find?` is the view on a table: `find?_insert` and `find?_erase` say what each change does to
    it. -/

namespace TaskWatch.Cache

/-- Values filed under names. -/
structure Table (β : Type) where
  rows : List (Key × β) := []

namespace Table

variable {β : Type}

/-- The value filed under a name. -/
def find? (t : Table β) (k : Key) : Option β := t.rows.lookup k

/-- Replaces the value of a row already there. -/
def replace (k : Key) (b : β) : List (Key × β) → List (Key × β)
  | [] => []
  | (l, c) :: rest => if k = l then (k, b) :: rest else (l, c) :: replace k b rest

/-- Files a value under a name, in place of the one filed there before. -/
def insert (t : Table β) (k : Key) (b : β) : Table β :=
  if (t.find? k).isSome then ⟨replace k b t.rows⟩ else ⟨t.rows ++ [(k, b)]⟩

/-- Takes a name off the table. -/
def erase (t : Table β) (k : Key) : Table β := ⟨t.rows.filter (fun r => r.1 != k)⟩

/-- How many names the table has. -/
def size (t : Table β) : Nat := t.rows.length

theorem lookup_cons_ne {k l : Key} {b : β} {rows : List (Key × β)} (h : ¬ l = k) :
    ((k, b) :: rows).lookup l = rows.lookup l := by
  have hlk : (l == k) = false := by simpa using h
  simp [List.lookup_cons, hlk]

theorem lookup_replace {k l : Key} {b : β} : {rows : List (Key × β)} → (rows.lookup k).isSome →
    (replace k b rows).lookup l = if l = k then some b else rows.lookup l
  | [], h => by simp at h
  | (m, c) :: rest, h => by
    unfold replace
    by_cases hm : k = m
    · subst hm
      by_cases hl : l = k
      · simp [hl]
      · simp [hl, lookup_cons_ne hl]
    · have h' : (rest.lookup k).isSome := by rwa [lookup_cons_ne hm] at h
      by_cases hl : l = m
      · subst hl
        have : ¬ l = k := fun e => hm e.symm
        simp [hm, this]
      · simp only [hm, if_false, lookup_cons_ne hl]
        exact lookup_replace h'

/-- After a value is filed it is what its name finds, and other names find what they found. -/
theorem find?_insert (t : Table β) (k l : Key) (b : β) :
    (t.insert k b).find? l = if l = k then some b else t.find? l := by
  unfold insert find?
  split
  · rename_i h
    exact lookup_replace h
  · rename_i h
    have hk : t.rows.lookup k = none := Option.not_isSome_iff_eq_none.mp h
    by_cases hl : l = k
    · subst hl
      rw [List.lookup_append, hk]
      simp
    · rw [List.lookup_append, lookup_cons_ne hl]
      simp [hl]

theorem lookup_filter_ne {k l : Key} : (rows : List (Key × β)) →
    (rows.filter (fun r => r.1 != k)).lookup l = if l = k then none else rows.lookup l
  | [] => by simp
  | (m, c) :: rest => by
    by_cases hm : m = k
    · subst hm
      by_cases hl : l = m
      · simp [lookup_filter_ne rest, hl]
      · simp [lookup_filter_ne rest, hl, lookup_cons_ne hl]
    · by_cases hl : l = m
      · subst hl
        simp [hm]
      · simp [hm, lookup_cons_ne hl, lookup_filter_ne rest]

/-- After a name is taken off it finds nothing, and other names find what they found. -/
theorem find?_erase (t : Table β) (k l : Key) :
    (t.erase k).find? l = if l = k then none else t.find? l :=
  lookup_filter_ne t.rows

end Table

end TaskWatch.Cache
