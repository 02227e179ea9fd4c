import TaskWatch.Proofs.Cache.Cell

/-! Which entries there are.

    The roster of a cache lists its queries and for whom the slot of each was made. A change leaves the
    roster alone, adds a query to it that was not on it, or takes one off. Every slot is therefore
    made for a subscriber of its own, and what remains of a dropped entry is never mistaken for
    another entry: a cache is well registered in every reachable course. -/

namespace TaskWatch.Cache

variable {α β γ : Type} {now : Time.Instant} {answer : Option (Except String α)} {k : Key}
  {c c' : Cache α} {s s' : Slot α}

/-! ### Rows of a table -/

namespace Table

theorem mem_rows_of_find? {t : Table β} {b : β} (h : t.find? k = some b) : (k, b) ∈ t.rows := by
  obtain ⟨before, behind, hrows, -⟩ := List.lookup_eq_some_iff.mp h
  simp [hrows]

/-- If names are entered once, every row is found. -/
theorem find?_of_mem_rows {t : Table β} {b : β} (once : (t.rows.map Prod.fst).Nodup)
    (h : (k, b) ∈ t.rows) : t.find? k = some b := by
  obtain ⟨before, behind, hrows⟩ := List.append_of_mem h
  refine List.lookup_eq_some_iff.mpr ⟨before, behind, hrows, fun p hp => ?_⟩
  rw [hrows, List.map_append, List.map_cons] at once
  have : p.1 ≠ k :=
    (List.nodup_append.mp once).2.2 _ (List.mem_map_of_mem hp) _ (List.mem_cons_self ..)
  simpa using this.symm

/-- A row is replaced by one that cannot be told from it. -/
theorem map_replace (f : Key × β → γ) {b d : β} (same : f (k, b) = f (k, d)) :
    ∀ rows : List (Key × β), rows.lookup k = some d → (replace k b rows).map f = rows.map f
  | [], h => nomatch h
  | (l, e) :: rest, h => by
    unfold replace
    by_cases hl : k = l
    · subst hl
      obtain rfl : e = d := by simpa using h
      simp [same]
    · rw [lookup_cons_ne hl] at h
      simp [hl, map_replace f same rest h]

theorem map_insert (f : Key × β → γ) {t : Table β} {b d : β} (there : t.find? k = some d)
    (same : f (k, b) = f (k, d)) : (t.insert k b).rows.map f = t.rows.map f := by
  unfold insert
  rw [there]
  exact map_replace f same t.rows there

theorem rows_insert_vacant {t : Table β} {b : β} (vacant : t.find? k = none) :
    (t.insert k b).rows = t.rows ++ [(k, b)] := by
  simp [insert, vacant]

end Table

/-! ### What a change does to the roster -/

/-- The queries that have a slot, and the subscriber for whom each slot was made. -/
def roster (c : Cache α) : List (Key × Nat) := c.slots.rows.map (fun r => (r.1, r.2.birth))

theorem mem_roster (h : c.slots.find? k = some s) : (k, s.birth) ∈ c.roster :=
  List.mem_map_of_mem (f := fun r => (r.1, r.2.birth)) (Table.mem_rows_of_find? h)

theorem roster_setSlot (there : c.slots.find? k = some s) (same : s'.birth = s.birth) :
    (c.setSlot k s').roster = c.roster :=
  Table.map_insert (fun r : Key × Slot α => (r.1, r.2.birth)) there (by simp [same])

theorem roster_launch (there : c.slots.find? k = some s) :
    (c.launch now k s).roster = c.roster :=
  roster_setSlot (c := (c.numbered.count _).spawn now k _ _) there rfl

theorem roster_startFetch (supersede : Bool) :
    (c.startFetch now k supersede).1.roster = c.roster := by
  cases hs : c.slots.find? k with
  | none => rw [startFetch_vacant hs]
  | some s =>
    cases hf : s.inFlight with
    | none => rw [startFetch_idle hs hf]; exact roster_launch hs
    | some f =>
      cases supersede with
      | false => rw [startFetch_joined hs hf]
      | true =>
        rw [startFetch_superseding hs hf, abort_eq]
        exact roster_launch (c := report _ _) hs

theorem roster_reschedule : (c.reschedule now k).roster = c.roster := by
  cases hs : c.slots.find? k with
  | none => rw [reschedule_vacant hs]
  | some s =>
    rw [reschedule_eq hs]
    split
    · rfl
    · have stopped : (c.stopTimer now k s.timer).roster = c.roster := by
        rw [roster, slots_stopTimer, roster]
      have there : (c.stopTimer now k s.timer).slots.find? k = some s := by simpa using hs
      cases s.period? with
      | none =>
        refine (roster_setSlot there ?_).trans stopped
        rfl
      | some period =>
        refine (roster_setSlot (c := spawn ..) there ?_).trans stopped
        rfl

theorem roster_commit {g : Nat} {result : Except String α} :
    (c.commit now k g result).roster = c.roster := by
  cases hs : c.slots.find? k with
  | none => rw [commit_vacant hs]; rfl
  | some s =>
    by_cases current : s.inFlight.map Flight.generation = some g
    · obtain ⟨f, flying, rfl⟩ := Option.map_eq_some_iff.mp current
      rw [commit_current hs flying]
      cases result with
      | ok a => exact roster_setSlot hs rfl
      | error message => exact roster_setSlot (c := (c.count _).report _) hs rfl
    · rw [commit_overtaken hs current]
      rfl

theorem roster_settle {g : Nat} {result : Except String α} :
    (c.settle now k g result).roster = c.roster := by
  unfold settle
  split
  · rfl
  · exact roster_commit

theorem roster_evict : (c.evict k).roster.Sublist c.roster :=
  List.filter_sublist.map _

theorem roster_collect {token : Nat} : (c.collect k token).roster.Sublist c.roster := by
  unfold collect
  split
  · exact .refl _
  · split
    · exact roster_evict
    · exact .refl _

theorem roster_found {producer : Nat} {o : Options} (vacant : c.slots.find? k = none) :
    ((c.numbered.found k producer o c.nextNumber).startFetch now k false).1.roster =
      c.roster ++ [(k, c.nextNumber)] := by
  have rows := Table.rows_insert_vacant (t := c.slots) (b := (
    { birth := c.nextNumber, entry := .idle k, producer,
      subscribers := [(c.nextNumber, o.interval)] } : Slot α)) vacant
  rw [roster_startFetch, roster, roster]
  exact (congrArg (List.map _) rows).trans (List.map_append ..)

/-- A change leaves the roster alone, takes a query off it or adds one. -/
theorem Change.roster (h : Change now answer c c') :
    c'.roster.Sublist c.roster ∨
      ∃ k, k.isValid = true ∧ c.slots.find? k = none ∧
        c'.roster = c.roster ++ [(k, c.nextNumber)] ∧ c.sequence < c'.sequence := by
  have same {c' : Cache α} (h : c'.roster = c.roster) : c'.roster.Sublist c.roster := h ▸ .refl _
  cases h with
  | found alive valid vacant =>
    refine .inr ⟨_, valid, vacant, roster_found vacant, ?_⟩
    rw [startFetch_idle (find?_found ..) rfl]
    exact Nat.lt_succ_of_le (Nat.le_succ _)
  | join producer o there =>
    rw [abort?_eq]
    exact .inl (same (roster_setSlot there rfl))
  | start => exact .inl (same (roster_startFetch _))
  | retime => exact .inl (same roster_reschedule)
  | leave left fewer there => exact .inl (same (roster_setSlot there rfl))
  | evict there lonely => exact .inl roster_evict
  | linger there lonely =>
    exact .inl (same (roster_setSlot (c := c.spawn now _ _ _) there rfl))
  | mark subscribed there => exact .inl (same (roster_setSlot there rfl))
  | reply listed duty taken => exact .inl (same roster_settle)
  | collect listed duty => exact .inl roster_collect
  | straggle given_up taken => exact .inl (same roster_settle)
  | _ => exact .inl (.refl _)

/-! ### What no change touches -/

/-- The grace period, what remains of dropped entries, and whether the cache was given up. -/
def kept (c : Cache α) : Nat × List (Remains α) × Bool := (c.grace, c.remains, c.abandoned)

theorem kept_startFetch (supersede : Bool) : (c.startFetch now k supersede).1.kept = c.kept := by
  unfold startFetch
  split
  · rfl
  · split
    · rfl
    · split
      · rw [abort_eq]
        rfl
      · rfl

theorem kept_reschedule : (c.reschedule now k).kept = c.kept := by
  cases hs : c.slots.find? k with
  | none => rw [reschedule_vacant hs]
  | some s =>
    have stopped : (c.stopTimer now k s.timer).kept = c.kept := by
      cases s.timer with
      | none => rfl
      | some timer => rw [stopTimer, abort_eq]; rfl
    rw [reschedule_eq hs]
    split
    · rfl
    · cases s.period? with
      | none => exact stopped
      | some period => exact stopped

theorem kept_settle {g : Nat} {result : Except String α} :
    (c.settle now k g result).kept = c.kept := by
  unfold settle commit
  split
  · rfl
  · split
    · rfl
    · split
      · cases result <;> rfl
      · rfl

theorem kept_collect {token : Nat} : (c.collect k token).kept = c.kept := by
  unfold collect
  split
  · rfl
  · split <;> rfl

theorem Change.kept (h : Change now answer c c') : c'.kept = c.kept := by
  cases h with
  | found alive valid vacant => exact kept_startFetch _
  | join producer o there => rw [abort?_eq]; rfl
  | start => exact kept_startFetch _
  | retime => exact kept_reschedule
  | reply listed duty taken => exact kept_settle
  | collect listed duty => exact kept_collect
  | straggle given_up taken => exact kept_settle
  | _ => rfl

theorem Changes.kept (h : Changes now answer c c') : c'.kept = c.kept := by
  induction h with
  | refl => rfl
  | tail _ change ih => exact change.kept.trans ih

theorem Changes.remains (h : Changes now answer c c') : c'.remains = c.remains :=
  congrArg (·.2.1) h.kept

theorem Change.sequence (h : Change now answer c c') : c.sequence ≤ c'.sequence := by
  have leads : Cell.Leads ⟨[]⟩ (Cache.cell now answer _ [] c) (Cache.cell now answer _ [] c') := h.cell
  exact leads.sequence

/-! ### Registration -/

/-- For whom the entries were made that there are, or that something remains of. -/
def births (c : Cache α) : List Nat := c.roster.map Prod.snd ++ c.remains.map (·.birth)

/-- Queries have valid names and one slot each, and no two entries were made for the same
    subscriber. -/
structure Registered (c : Cache α) : Prop where
  keys : (c.roster.map Prod.fst).Nodup
  valid : ∀ k ∈ c.roster.map Prod.fst, k.isValid = true
  births : c.births.Nodup
  numbered : ∀ b ∈ c.births, b ≤ c.sequence

theorem Registered.find?_iff (inv : c.Registered) :
    c.slots.find? k = some s ↔ (k, s) ∈ c.slots.rows := by
  refine ⟨Table.mem_rows_of_find?, Table.find?_of_mem_rows ?_⟩
  have := inv.keys
  rwa [roster, List.map_map] at this

theorem Registered.mem_keys (inv : c.Registered) :
    k ∈ c.roster.map Prod.fst ↔ ∃ s, c.slots.find? k = some s := by
  rw [roster, List.map_map]
  constructor
  · intro h
    obtain ⟨⟨l, s⟩, hrow, rfl⟩ := List.mem_map.mp h
    exact ⟨s, inv.find?_iff.mpr hrow⟩
  · rintro ⟨s, there⟩
    exact List.mem_map.mpr ⟨_, inv.find?_iff.mp there, rfl⟩

theorem Registered.sublist (inv : c.Registered) (roster : c'.roster.Sublist c.roster)
    (remains : c'.remains = c.remains) (sequence : c.sequence ≤ c'.sequence) :
    c'.Registered := by
  have births : c'.births.Sublist c.births := by
    unfold Cache.births
    rw [remains]
    exact (roster.map _).append_right _
  exact ⟨inv.keys.sublist (roster.map _),
    fun k hk => inv.valid k ((roster.map _).subset hk), inv.births.sublist births,
    fun b hb => Nat.le_trans (inv.numbered b (births.subset hb)) sequence⟩

theorem Registered.found (inv : c.Registered) (valid : k.isValid = true)
    (vacant : c.slots.find? k = none)
    (roster : c'.roster = c.roster ++ [(k, c.nextNumber)]) (remains : c'.remains = c.remains)
    (sequence : c.sequence < c'.sequence) : c'.Registered := by
  have births : c'.births.Perm (c.nextNumber :: c.births) := by
    unfold Cache.births
    rw [roster, remains, List.map_append, List.append_assoc]
    exact List.perm_middle
  have new : c.nextNumber ∉ c.births := fun h => Nat.not_succ_le_self _ (inv.numbered _ h)
  refine ⟨?_, fun l hl => ?_, births.nodup_iff.mpr (List.nodup_cons.mpr ⟨new, inv.births⟩),
    fun b hb => ?_⟩
  · rw [roster, List.map_append, List.nodup_append]
    refine ⟨inv.keys, List.pairwise_singleton .., fun l hl m hm same => ?_⟩
    obtain rfl := List.mem_singleton.mp hm
    obtain ⟨s, there⟩ := inv.mem_keys.mp (same ▸ hl)
    exact nomatch vacant.symm.trans there
  · rw [roster, List.map_append] at hl
    rcases List.mem_append.mp hl with hl | hl
    · exact inv.valid l hl
    · obtain rfl := List.mem_singleton.mp hl
      exact valid
  · rcases List.mem_cons.mp (births.mem_iff.mp hb) with rfl | hb
    · exact sequence
    · exact Nat.le_trans (inv.numbered b hb) (Nat.le_of_lt sequence)

/-- Dropping all entries leaves the same births, now of what remains. -/
theorem Registered.dropped (inv : c.Registered) (slots : c'.slots = {})
    (remains : c'.remains = (c.slots.rows.map Prod.snd).map Slot.remains ++ c.remains)
    (sequence : c'.sequence = c.sequence) : c'.Registered := by
  have births : c'.births = c.births := by
    simp only [Cache.births, roster, slots, remains, List.map_nil, List.nil_append,
      List.map_append, List.map_map]
    rfl
  have nobody : c'.roster = [] := by
    rw [roster, slots]
    rfl
  refine ⟨?_, fun k hk => ?_, births ▸ inv.births, fun b hb => ?_⟩
  · rw [nobody]
    exact List.nodup_nil
  · rw [nobody] at hk
    exact (List.not_mem_nil hk).elim
  · rw [sequence]
    exact inv.numbered b (births ▸ hb)

theorem Change.registered (h : Change now answer c c') (inv : c.Registered) : c'.Registered := by
  have remains : c'.remains = c.remains := Changes.remains h.chain
  rcases h.roster with roster | ⟨k, valid, vacant, roster, sequence⟩
  · exact inv.sublist roster remains h.sequence
  · exact inv.found valid vacant roster remains sequence

theorem Changes.registered (h : Changes now answer c c') (inv : c.Registered) : c'.Registered := by
  induction h with
  | refl => exact inv
  | tail _ change ih => exact change.registered ih

namespace Course

variable {w w' : Course α}

theorem Effect.registered (h : Effect w w') (inv : w.cache.Registered) : w'.cache.Registered := by
  cases h with
  | changed deed handles plain changes =>
    exact (changes.registered inv).sublist (.refl _) rfl (Nat.le_refl _)
  | dropped deed abandoned events said plain =>
    rw [dropEntries_eq]
    exact inv.dropped rfl rfl rfl
  | answered waits calls => exact inv.sublist (.refl _) rfl (Nat.le_refl _)
  | passed now handles later => exact inv

theorem Reachable.registered (hw : w.Reachable) : w.cache.Registered := by
  obtain ⟨grace, now, h⟩ := hw
  induction h with
  | refl =>
    exact ⟨List.nodup_nil, fun k hk => (List.not_mem_nil hk).elim, List.nodup_nil,
      fun b hb => (List.not_mem_nil hb).elim⟩
  | tail _ step ih => exact step.effect.registered ih

end Course

end TaskWatch.Cache
