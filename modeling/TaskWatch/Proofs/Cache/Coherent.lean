import Mathlib.Data.List.Nodup
import TaskWatch.Proofs.Cache.Faithful
import TaskWatch.Proofs.Cache.Roster

/-! Entries are coherent, and what is known of a query grows.

    Three transitions change an entry, and each keeps it coherent: phase, data, error and dates fit
    together. Data that was there once stays, and the date of the last success is never set back,
    because no success is dated later than the clock shows. An entry that was dropped stays as it was
    for those who hold on to it, so all this is true of every entry that can be seen. -/

namespace TaskWatch.Cache

variable {α : Type} {k : Key}

/-! ### One entry -/

namespace Entry

variable {e e' e'' : Entry α} {now : Time.Instant}

/-- Phase, data, error and dates fit together. -/
structure Coherent (e : Entry α) : Prop where
  begun : e.phase ≠ .idle
  success : e.phase = .success → e.data.isSome ∧ e.error = none
  error : e.phase = .error → e.error.isSome
  loading : e.phase = .loading → e.data = none ∧ e.fetching = true
  failed : e.phase = .error → e.data = none → e.fetching = false
  fetchedAt : e.fetchedAt.isSome = e.data.isSome
  updatedAt : e.updatedAt.isSome = e.data.isSome

/-- The data and its dates are those of the given success; there are none without a success. -/
structure Shows (e : Entry α) (success : Option (Time.Instant × α)) : Prop where
  data : e.data = success.map (·.2)
  fetchedAt : e.fetchedAt = success.map (·.1.elapsed)
  updatedAt : e.updatedAt = success.map (·.1.wall)

/-- Data that was there stays, and its date is not set back. -/
structure Grows (e e' : Entry α) : Prop where
  key : e'.key = e.key
  data : e.data.isSome → e'.data.isSome
  fetchedAt : ∀ t, e.fetchedAt = some t → ∃ t', e'.fetchedAt = some t' ∧ t ≤ t'

theorem Grows.refl (e : Entry α) : e.Grows e := ⟨rfl, id, fun t ht => ⟨t, ht, Nat.le_refl t⟩⟩

theorem Grows.trans (h : e.Grows e') (h' : e'.Grows e'') : e.Grows e'' := by
  refine ⟨h'.key.trans h.key, h'.data ∘ h.data, fun t ht => ?_⟩
  obtain ⟨t', ht', hle⟩ := h.fetchedAt t ht
  obtain ⟨t'', ht'', hle'⟩ := h'.fetchedAt t' ht'
  exact ⟨t'', ht'', Nat.le_trans hle hle'⟩

theorem begin_idle_coherent (k : Key) : (Entry.idle k : Entry α).begin.Coherent where
  begun := nofun
  success := nofun
  error := nofun
  loading _ := ⟨rfl, rfl⟩
  failed := nofun
  fetchedAt := rfl
  updatedAt := rfl

/-- A fetch that begins leaves the phase alone if there is data. -/
theorem begin_coherent (h : e.Coherent) : e.begin.Coherent := by
  cases hd : e.data with
  | none =>
    have loading : e.begin.phase = .loading := by simp [begin, hd]
    refine ⟨?_, ?_, ?_, fun _ => ⟨hd, rfl⟩, ?_, h.fetchedAt, h.updatedAt⟩ <;> simp [loading]
  | some a =>
    have same : e.begin.phase = e.phase := by simp [begin, hd]
    have there : e.begin.data = some a := hd
    refine ⟨same ▸ h.begun, same ▸ h.success, same ▸ h.error, fun hl => ?_, fun _ hn => ?_,
      h.fetchedAt, h.updatedAt⟩
    · exact nomatch hd.symm.trans (h.loading (same ▸ hl)).1
    · exact nomatch there.symm.trans hn

theorem succeed_coherent (a : α) : (e.succeed now a).Coherent where
  begun := nofun
  success _ := ⟨rfl, rfl⟩
  error := nofun
  loading := nofun
  failed := nofun
  fetchedAt := rfl
  updatedAt := rfl

theorem fail_coherent (h : e.Coherent) (message : String) : (e.fail message).Coherent where
  begun := nofun
  success := nofun
  error _ := rfl
  loading := nofun
  failed _ _ := rfl
  fetchedAt := h.fetchedAt
  updatedAt := h.updatedAt

theorem begin_grows : e.Grows e.begin := ⟨rfl, id, fun t ht => ⟨t, ht, Nat.le_refl t⟩⟩

theorem fail_grows (message : String) : e.Grows (e.fail message) :=
  ⟨rfl, id, fun t ht => ⟨t, ht, Nat.le_refl t⟩⟩

theorem succeed_grows (a : α) (dated : ∀ t, e.fetchedAt = some t → t ≤ now.elapsed) :
    e.Grows (e.succeed now a) :=
  ⟨rfl, fun _ => rfl, fun t ht => ⟨now.elapsed, rfl, dated t ht⟩⟩

end Entry

/-! ### The entry of a query -/

namespace Cell

variable {c c' : Cell α} {s s' : Slot α}

/-- The entry of the slot is coherent and its dates are past; its first fetch is known. -/
structure Sound (k : Key) (c : Cell α) (s : Slot α) : Prop where
  key : s.entry.key = k
  coherent : s.entry.Coherent
  dated : ∀ t, s.entry.fetchedAt = some t → t ≤ c.now.elapsed
  numbered : s.birth ≤ c.sequence
  founded : s.birth + 1 ∈ (History.life c.history).started

/-- The slot was there before and its entry has grown, or it was made after. -/
def Continues (c : Cell α) (s' : Slot α) : Prop :=
  (∃ s, c.slot = some s ∧ s.birth = s'.birth ∧ s.entry.Grows s'.entry) ∨ c.sequence < s'.birth

theorem Step.sound (h : Cell.Step k c c') (inv : ∀ s, c.slot = some s → c.Sound k s)
    (s' : Slot α) (there' : c'.slot = some s') : c'.Sound k s' ∧ c.Continues s' := by
  cases h with
  | pass later =>
    have ⟨key, coherent, dated, numbered, founded⟩ := inv s' there'
    exact ⟨⟨key, coherent, fun t ht => Nat.le_trans (dated t ht) later, numbered, founded⟩,
      .inl ⟨s', there', rfl, .refl _⟩⟩
  | number more =>
    have ⟨key, coherent, dated, numbered, founded⟩ := inv s' there'
    exact ⟨⟨key, coherent, dated, Nat.le_trans numbered more, founded⟩,
      .inl ⟨s', there', rfl, .refl _⟩⟩
  | found id producer job subscribers vacant new =>
    obtain rfl := Option.some.inj there'
    exact ⟨⟨rfl, Entry.begin_idle_coherent k, nofun, Nat.le_succ id, List.mem_cons_self ..⟩,
      .inr new⟩
  | @adjust s producer subscribers timer eviction there =>
    obtain rfl := Option.some.inj there'
    have ⟨key, coherent, dated, numbered, founded⟩ := inv s there
    exact ⟨⟨key, coherent, dated, numbered, founded⟩, .inl ⟨s, there, rfl, .refl _⟩⟩
  | @mark s there =>
    obtain rfl := Option.some.inj there'
    have ⟨key, coherent, dated, numbered, founded⟩ := inv s there
    exact ⟨⟨key, coherent, dated, numbered, founded⟩, .inl ⟨s, there, rfl, .refl _⟩⟩
  | @start s g job there new =>
    obtain rfl := Option.some.inj there'
    have ⟨key, coherent, dated, numbered, founded⟩ := inv s there
    exact ⟨⟨key, Entry.begin_coherent coherent, dated,
      Nat.le_trans numbered (Nat.le_of_lt new), List.mem_cons_of_mem _ founded⟩,
      .inl ⟨s, there, rfl, Entry.begin_grows⟩⟩
  | @succeed s f a there flying =>
    obtain rfl := Option.some.inj there'
    have ⟨key, coherent, dated, numbered, founded⟩ := inv s there
    refine ⟨⟨key, Entry.succeed_coherent a, fun t ht => ?_, numbered, founded⟩,
      .inl ⟨s, there, rfl, Entry.succeed_grows a dated⟩⟩
    obtain rfl := Option.some.inj ht
    exact Nat.le_refl _
  | @fail s f message there flying =>
    obtain rfl := Option.some.inj there'
    have ⟨key, coherent, dated, numbered, founded⟩ := inv s there
    exact ⟨⟨key, Entry.fail_coherent coherent message, dated, numbered, founded⟩,
      .inl ⟨s, there, rfl, Entry.fail_grows message⟩⟩
  | evict there lonely => exact nomatch there'
  | clear => exact nomatch there'

theorem Leads.sound (h : Cell.Leads k c c') (inv : ∀ s, c.slot = some s → c.Sound k s) :
    ∀ s', c'.slot = some s' → c'.Sound k s' ∧ c.Continues s' := by
  induction h with
  | refl => exact fun s' there' => ⟨inv s' there', .inl ⟨s', there', rfl, .refl _⟩⟩
  | tail before step ih =>
    intro s'' there''
    obtain ⟨sound, ⟨s', there', same, grows⟩ | made⟩ :=
      step.sound (fun s hs => (ih s hs).1) s'' there''
    · obtain ⟨-, ⟨s, there, same', grows'⟩ | made⟩ := ih s' there'
      · exact ⟨sound, .inl ⟨s, there, same'.trans same, grows'.trans grows⟩⟩
      · exact ⟨sound, .inr (same ▸ made)⟩
    · exact ⟨sound, .inr (Nat.lt_of_le_of_lt (Leads.sequence before) made)⟩

end Cell

/-! ### Every entry that can be seen -/

/-- What is there to see of the entry that was made for the given subscriber. -/
def Shown (c : Cache α) (birth : Nat) (e : Entry α) : Prop :=
  (∃ k s, c.slots.find? k = some s ∧ s.birth = birth ∧ s.entry = e) ∨
    ∃ r ∈ c.remains, r.birth = birth ∧ r.entry = e

theorem Handle.shown {c : Cache α} {h : Handle} {e : Entry α} (sees : h.current c = some e) :
    c.Shown h.birth e := by
  unfold Handle.current Handle.view at sees
  split at sees
  · rename_i s found
    obtain ⟨there, same⟩ := Option.filter_eq_some_iff.mp found
    exact .inl ⟨h.key, s, there, by simpa using same, by simpa using sees⟩
  · rw [Option.map_map, Option.map_eq_some_iff] at sees
    obtain ⟨r, found, rfl⟩ := sees
    exact .inr ⟨r, List.mem_of_find?_eq_some found, by simpa using List.find?_some found, rfl⟩

theorem Shown.registered {c : Cache α} {birth : Nat} {e : Entry α} (h : c.Shown birth e)
    (inv : c.Registered) : birth ≤ c.sequence := by
  refine inv.numbered birth (List.mem_append.mpr ?_)
  rcases h with ⟨k, s, there, rfl, -⟩ | ⟨r, hr, rfl, -⟩
  · exact .inl (List.mem_map.mpr ⟨_, mem_roster there, rfl⟩)
  · exact .inr (List.mem_map_of_mem hr)

/-- There is one entry to see for each subscriber that one was made for. -/
theorem Registered.unique {c : Cache α} {birth : Nat} {e e' : Entry α} (inv : c.Registered)
    (h : c.Shown birth e) (h' : c.Shown birth e') : e = e' := by
  obtain ⟨slots, remains, apart⟩ := List.nodup_append.mp inv.births
  rw [roster, List.map_map] at slots
  rcases h with ⟨k, s, there, rfl, rfl⟩ | ⟨r, hr, rfl, rfl⟩
  · rcases h' with ⟨l, s', there', same, rfl⟩ | ⟨r', hr', same, rfl⟩
    · have := List.inj_on_of_nodup_map slots (Table.mem_rows_of_find? there)
        (Table.mem_rows_of_find? there') same.symm
      rw [(Prod.mk.inj this).2]
    · exact (apart _ (List.mem_map_of_mem (mem_roster there)) _ (List.mem_map_of_mem hr')
        same.symm).elim
  · rcases h' with ⟨l, s', there', same, rfl⟩ | ⟨r', hr', same, rfl⟩
    · exact (apart _ (List.mem_map_of_mem (mem_roster there')) _ (List.mem_map_of_mem hr)
        same).elim
    · rw [List.inj_on_of_nodup_map remains hr hr' same.symm]

namespace Course

variable {w w' : Course α} {s : Slot α} {birth : Nat} {e e' : Entry α}

theorem Reachable.sound (hw : w.Reachable) (there : w.cache.slots.find? k = some s) :
    (w.cell k).Sound k s := by
  obtain ⟨grace, now, h⟩ := hw
  refine (Cell.Leads.sound (Leads.cell h rfl) (fun s hs => ?_) s there).1
  exact nomatch (fresh_vacant grace now k).symm.trans hs

theorem Reachable.shows (hw : w.Reachable) (there : w.cache.slots.find? k = some s) :
    s.entry.Shows (w.history k).success? := by
  obtain ⟨-, -, data, fetchedAt, updatedAt, -, -⟩ := hw.faithful (k := k)
  rw [show (w.cell k).slot = some s from there] at data fetchedAt updatedAt
  exact ⟨data, fetchedAt, updatedAt⟩

/-- What remains was there before, or it remains of an entry that was dropped just now. -/
theorem Effect.remains (h : Effect w w') (booked : w.Booked) (inv : w.cache.Registered) :
    ∀ r ∈ w'.cache.remains, r ∈ w.cache.remains ∨
      ∃ k s, w.cache.slots.find? k = some s ∧ s.remains = r ∧
        (w'.history k).pastLives = (w.history k).life :: (w.history k).pastLives := by
  intro r hr
  cases h with
  | @changed c deed handles plain changes =>
    replace hr : r ∈ c.remains := hr
    rw [changes.remains] at hr
    exact .inl hr
  | dropped deed abandoned events said plain =>
    replace hr : r ∈ (w.cache.dropEntries w.now).remains := hr
    rw [dropEntries_eq] at hr
    rcases List.mem_append.mp hr with hr | hr
    · obtain ⟨s, hs, rfl⟩ := List.mem_map.mp hr
      obtain ⟨⟨k, s⟩, hrow, rfl⟩ := List.mem_map.mp hs
      refine .inr ⟨k, s, inv.find?_iff.mpr hrow, rfl, ?_⟩
      rw [history_dropped booked said plain]
      rfl
    · exact .inl hr
  | answered waits calls => exact .inl hr
  | passed now handles later => exact .inl hr

/-- What remains of a dropped entry is coherent, and shows the last success in the time of that
    entry. -/
theorem Reachable.remains (hw : w.Reachable) :
    ∀ r ∈ w.cache.remains, r.entry.Coherent ∧ ∃ life ∈ (w.history r.entry.key).pastLives,
      r.birth + 1 ∈ life.started ∧ r.entry.Shows life.success? := by
  obtain ⟨grace, now, h⟩ := hw
  induction h with
  | refl => exact fun r hr => (List.not_mem_nil hr).elim
  | @tail w w' before step ih =>
    have hw : w.Reachable := ⟨grace, now, before⟩
    intro r hr
    rcases step.effect.remains hw.booked hw.registered r hr with hr | ⟨k, s, there, rfl, lives⟩
    · obtain ⟨coherent, life, past, founded, shows⟩ := ih r hr
      have leads : Cell.Leads r.entry.key (w.cell _) (w'.cell _) := step.effect.cell hw.booked
      exact ⟨coherent, life, leads.pastLives past, founded, shows⟩
    · have sound := hw.sound there
      have shows := hw.shows there
      obtain rfl : s.entry.key = k := sound.key
      rw [← History.success?_life] at shows
      exact ⟨sound.coherent, _, lives ▸ List.mem_cons_self .., sound.founded, shows⟩

/-- What is seen of an entry after a step was there to see before and has grown, or it was made by
    that step. -/
theorem Effect.shown (h : Effect w w') (hw : w.Reachable) (h' : w'.cache.Shown birth e') :
    (∃ e, w.cache.Shown birth e ∧ e.Grows e') ∨ w.cache.sequence < birth := by
  rcases h' with ⟨k, s', there', rfl, rfl⟩ | ⟨r, hr, rfl, rfl⟩
  · have leads : Cell.Leads k (w.cell k) (w'.cell k) := h.cell hw.booked
    rcases (leads.sound (fun s there => hw.sound there) s' there').2 with
      ⟨s, there, same, grows⟩ | made
    · exact .inl ⟨s.entry, .inl ⟨k, s, there, same, rfl⟩, grows⟩
    · exact .inr made
  · rcases h.remains hw.booked hw.registered r hr with hr | ⟨k, s, there, rfl, -⟩
    · exact .inl ⟨r.entry, .inr ⟨r, hr, rfl, rfl⟩, .refl _⟩
    · exact .inl ⟨s.entry, .inl ⟨k, s, there, rfl, rfl⟩, .refl _⟩

theorem Leads.grows (h : w.Leads w') (hw : w.Reachable) (shown : w.cache.Shown birth e)
    (shown' : w'.cache.Shown birth e') : e.Grows e' := by
  have known := shown.registered hw.registered
  suffices ∃ e, w.cache.Shown birth e ∧ e.Grows e' by
    obtain ⟨e₀, h₀, grows⟩ := this
    rwa [hw.registered.unique shown h₀]
  induction h generalizing e' with
  | refl => exact ⟨e', shown', .refl _⟩
  | @tail w₁ w₂ before step ih =>
    have leads : Cell.Leads ⟨[]⟩ (w.cell _) (w₁.cell _) := Leads.cell before hw.booked
    rcases step.effect.shown (hw.leads before) shown' with ⟨e₁, h₁, grows₁⟩ | made
    · obtain ⟨e₀, h₀, grows₀⟩ := ih h₁
      exact ⟨e₀, h₀, grows₀.trans grows₁⟩
    · exact absurd (Nat.lt_of_le_of_lt leads.sequence made) (Nat.not_lt_of_le known)

end Course

/-- In every reachable course every entry that can be seen, in the cache or through a handle, is
    coherent, and shows the last success in its own time. Whatever follows, its data stays and its
    date is not set back. -/
theorem entries_coherent {w : Course α} (hw : w.Reachable) :
    (∀ k e, w.cache.entry? k = some e →
      e.key = k ∧ e.Coherent ∧ e.Shows (w.history k).success?) ∧
    (∀ h e, Handle.current h w.cache = some e → e.Coherent ∧
      ∃ life ∈ (w.history e.key).lives, h.birth + 1 ∈ life.started ∧ e.Shows life.success?) ∧
    ∀ w', w.Leads w' →
      (∀ k s s', w.cache.slots.find? k = some s → w'.cache.slots.find? k = some s' →
        s.birth = s'.birth → s.entry.Grows s'.entry) ∧
      ∀ h e e', Handle.current h w.cache = some e → Handle.current h w'.cache = some e' →
        e.Grows e' := by
  refine ⟨fun k e there => ?_, fun h e sees => ?_, fun w' leads => ⟨?_, fun h e e' sees sees' => ?_⟩⟩
  · obtain ⟨s, found, rfl⟩ := Option.map_eq_some_iff.mp there
    have sound := hw.sound found
    exact ⟨sound.key, sound.coherent, hw.shows found⟩
  · rcases Handle.shown sees with ⟨k, s, there, same, rfl⟩ | ⟨r, hr, same, rfl⟩
    · have sound := hw.sound there
      have shows := hw.shows there
      obtain rfl : s.entry.key = k := sound.key
      rw [← History.success?_life] at shows
      exact ⟨sound.coherent, _, List.mem_cons_self .., same ▸ sound.founded, shows⟩
    · obtain ⟨coherent, life, past, founded, shows⟩ := hw.remains r hr
      exact ⟨coherent, life, List.mem_cons_of_mem _ past, same ▸ founded, shows⟩
  · intro k s s' there there' same
    exact leads.grows hw (.inl ⟨k, s, there, rfl, rfl⟩) (.inl ⟨k, s', there', same.symm, rfl⟩)
  · exact leads.grows hw (Handle.shown sees) (Handle.shown sees')

/-- After a failure an entry still shows the last success. -/
theorem failed_entry_coherent :
    let w : Course Nat := .played 0 [.subscribe (.single "tasks") 0 {}, .run 1 10 (.ok 7), .pass 10,
      .run 1 10 (.ok 7), .refetch (.single "tasks"), .run 2 0 (.error "down"),
      .run 2 0 (.error "down")]
    ∃ e, w.cache.entry? (.single "tasks") = some e ∧ e.phase = .error ∧ e.data = some 7 ∧
      e.Coherent ∧ e.Shows (w.history (.single "tasks")).success? := by
  refine ⟨_, rfl, rfl, rfl, ?_⟩
  exact ((entries_coherent (Course.reachable_played _ _)).1 _ _ rfl).2

end TaskWatch.Cache
