import TaskWatch.Proofs.Cache.Cell

/-! Slots show what the history says.

    In every reachable course the slot of a query tells the fetch in flight, the data with its dates,
    and whether the data was invalidated, exactly as its history does. Histories are orderly, because
    a fetch is numbered higher than any before it and a result is entered only for the fetch in
    flight. -/

namespace TaskWatch.Cache

variable {α : Type} {k : Key}

/-- The slot shows what the history says, and the history is orderly. -/
structure Cell.Faithful (c : Cell α) : Prop where
  flight : (c.slot.bind (·.inFlight)).map Flight.generation = History.flight? c.history
  invalidated : c.slot.any (·.invalidated) = History.isInvalidated c.history
  data : c.slot.bind (·.entry.data) = (History.success? c.history).map (·.2)
  fetchedAt : c.slot.bind (·.entry.fetchedAt) = (History.success? c.history).map (·.1.elapsed)
  updatedAt : c.slot.bind (·.entry.updatedAt) = (History.success? c.history).map (·.1.wall)
  numbered : ∀ g ∈ History.started c.history, g ≤ c.sequence
  orderly : History.Orderly c.history

namespace Cell

variable {c c' : Cell α} {s : Slot α}

/-- The generation in flight is the one that the history names. -/
theorem Faithful.flying {f : Flight} (inv : c.Faithful) (there : c.slot = some s)
    (flying : s.inFlight = some f) : History.flight? c.history = some f.generation := by
  rw [← inv.flight, there, Option.bind_some, flying, Option.map_some]

theorem Step.faithful (h : Cell.Step k c c') (inv : c.Faithful) : c'.Faithful := by
  have flying {s : Slot α} {f : Flight} := inv.flying (s := s) (f := f)
  obtain ⟨flight, invalidated, data, fetchedAt, updatedAt, numbered, orderly⟩ := inv
  cases h with
  | pass later => exact ⟨flight, invalidated, data, fetchedAt, updatedAt, numbered, orderly⟩
  | number more =>
    exact ⟨flight, invalidated, data, fetchedAt, updatedAt,
      fun g hg => Nat.le_trans (numbered g hg) more, orderly⟩
  | found id producer job subscribers vacant new =>
    rw [vacant] at invalidated data fetchedAt updatedAt
    have below : ∀ x ∈ History.started c.history, x < id + 1 := fun x hx => by
      have := numbered x hx
      omega
    refine ⟨rfl, invalidated, data, fetchedAt, updatedAt, fun x hx => ?_, below, orderly⟩
    rcases List.mem_cons.mp hx with rfl | hx
    · exact Nat.le_refl _
    · exact Nat.le_of_lt (below x hx)
  | adjust producer subscribers timer eviction there =>
    rw [there] at flight invalidated data fetchedAt updatedAt
    exact ⟨flight, invalidated, data, fetchedAt, updatedAt, numbered, orderly⟩
  | mark there =>
    rw [there] at flight data fetchedAt updatedAt
    exact ⟨flight, rfl, data, fetchedAt, updatedAt, numbered, orderly⟩
  | start g job there new =>
    rw [there] at invalidated data fetchedAt updatedAt
    have below : ∀ x ∈ History.started c.history, x < g := fun x hx =>
      Nat.lt_of_le_of_lt (numbered x hx) new
    refine ⟨rfl, invalidated, data, fetchedAt, updatedAt, fun x hx => ?_, below, orderly⟩
    rcases List.mem_cons.mp hx with rfl | hx
    · exact Nat.le_refl _
    · exact Nat.le_of_lt (below x hx)
  | succeed a there hf =>
    exact ⟨rfl, rfl, rfl, rfl, rfl, numbered, flying there hf, orderly⟩
  | fail message there hf =>
    rw [there] at invalidated data fetchedAt updatedAt
    exact ⟨rfl, invalidated, data, fetchedAt, updatedAt, numbered, flying there hf, orderly⟩
  | evict there lonely => exact ⟨rfl, rfl, rfl, rfl, rfl, numbered, orderly⟩
  | clear => exact ⟨rfl, rfl, rfl, rfl, rfl, numbered, orderly⟩

theorem Leads.faithful (h : Cell.Leads k c c') (inv : c.Faithful) : c'.Faithful := by
  induction h with
  | refl => exact inv
  | tail _ step ih => exact step.faithful ih

end Cell

/-- At the beginning there is nothing to show. -/
theorem Course.fresh_faithful (grace : Nat) (now : Time.Instant) :
    ((Course.fresh grace now : Course α).cell k).Faithful :=
  ⟨rfl, rfl, rfl, rfl, rfl, fun _ hg => (List.not_mem_nil hg).elim, trivial⟩

theorem Course.Reachable.faithful {w : Course α} (hw : w.Reachable) : (w.cell k).Faithful := by
  obtain ⟨grace, now, h⟩ := hw
  exact (Leads.cell h rfl).faithful (fresh_faithful grace now)

end TaskWatch.Cache
