import TaskWatch.Proofs.Cache.Chores
import TaskWatch.Proofs.Cache.Seen
import TaskWatch.Watcher

/-! A watcher and the slot of its query.

    What the source has and the entry does not show yet is covered: by a fetch in flight, which will take
    the answer when it is there, or by the mark that the data is stale, which makes whoever comes next
    fetch it. A mark alone covers nothing while somebody is interested, for nobody comes then; but in
    that case a fetch was started with the mark. A watcher is the only subscriber of its query, and has
    seen the entry as it is unless a change was published since. All of that is kept by whatever the
    watcher does and by the jobs of the cache. -/

namespace TaskWatch

open Cache

variable {α : Type} {a a' : α} {settled settled' : Prop} {now : Time.Instant} {w : Watcher α}
  {c c' : Cache α} {k : Key} {h : Handle} {s s' : Slot α}

/-! ### What covers the data of a source -/

/-- Whatever the source has is shown or covered. As long as it is not settled, somebody has yet to
    declare the data stale. -/
structure Cache.Slot.Covered (a : α) (settled : Prop) (s : Slot α) : Prop where
  current : settled → s.inFlight = none → s.invalidated = false → s.entry.data = some a
  attended : s.inFlight = none → s.invalidated = true → s.subscribers = []

namespace Cache

theorem Slot.Covered.of_flying (flying : s.inFlight.isSome = true) : s.Covered a settled where
  current _ idle := by simp [idle] at flying
  attended idle := by simp [idle] at flying

/-- Once a fetch is asked for, one is in flight. -/
theorem find?_startFetch (now : Time.Instant) (there : c.slots.find? k = some s) :
    ∃ s', (c.startFetch now k false).1.slots.find? k = some s' ∧ s'.inFlight.isSome = true ∧
      s'.birth = s.birth ∧ s'.subscribers = s.subscribers ∧
      (s.version < s'.version ∨ s'.version = s.version ∧ s'.entry = s.entry) := by
  cases hf : s.inFlight with
  | none =>
    rw [startFetch_idle there hf]
    exact ⟨_, find?_setSlot_self .., rfl, rfl, rfl, .inl (Nat.lt_succ_self _)⟩
  | some f =>
    rw [startFetch_joined there hf]
    exact ⟨s, there, by simp [hf], rfl, rfl, .inr ⟨rfl, rfl⟩⟩

/-- What is declared stale is covered. -/
theorem find?_invalidate (now : Time.Instant) (a : α) (settled : Prop)
    (there : c.slots.find? k = some s) :
    ∃ s', (c.invalidate now k).1.slots.find? k = some s' ∧ s'.Covered a settled ∧
      s'.birth = s.birth ∧ s'.subscribers = s.subscribers ∧
      (s.version < s'.version ∨ s'.version = s.version ∧ s'.entry = s.entry) := by
  have marked := find?_setSlot_self c k { s with invalidated := true }
  rw [invalidate, there]
  dsimp only
  cases hl : s.subscribers.isEmpty with
  | true =>
    exact ⟨_, marked, ⟨fun _ _ valid => by simp at valid, fun _ _ => List.isEmpty_iff.mp hl⟩, rfl, rfl,
      .inr ⟨rfl, rfl⟩⟩
  | false =>
    obtain ⟨s', found, flying, rest⟩ := find?_startFetch now
      (c := (c.setSlot k { s with invalidated := true }).report (.invalidated k true)) marked
    exact ⟨s', found, .of_flying flying, rest⟩

/-- A first subscriber finds a slot in which the first fetch is in flight. -/
theorem find?_founded (now : Time.Instant) (k : Key) (producer : Nat) (o : Options) (c : Cache α) :
    ∃ s, (c.founded now k producer o).slots.find? k = some s ∧ s.birth = c.nextNumber ∧
      s.subscribers = [(c.nextNumber, o.interval)] ∧ s.inFlight.isSome = true := by
  obtain ⟨s, found, flying, birth, subscribers, -⟩ :=
    find?_startFetch now (find?_found c.numbered k producer o c.nextNumber)
  exact ⟨s, found, birth, subscribers, flying⟩

/-- A subscriber is added to the slot, and if no fetch is in flight then, the slot was fresh. -/
theorem find?_served (now : Time.Instant) (k : Key) (s : Slot α) (producer : Nat) (o : Options)
    (c : Cache α) :
    ∃ s', (c.served now k s producer o).slots.find? k = some s' ∧ s'.birth = s.birth ∧
      s'.subscribers = s.subscribers ++ [(c.nextNumber, o.interval)] ∧
      (s'.inFlight = none → s.isFresh now o = true ∧ s'.invalidated = s.invalidated ∧
        s'.entry = s.entry) := by
  obtain ⟨-, -, found⟩ := joined_spec (k := k) (s := s) now producer o c
  unfold served
  cases hf : s.inFlight with
  | some f => exact ⟨_, found, rfl, rfl, fun idle => by simp [hf] at idle⟩
  | none =>
    dsimp only [Option.isSome_none]
    rw [if_neg Bool.false_ne_true]
    split
    · rename_i fresh
      exact ⟨_, found, rfl, rfl, fun _ => ⟨fresh, rfl, rfl⟩⟩
    · split
      all_goals
        obtain ⟨s', found', flying, birth, subscribers, -⟩ :=
          find?_startFetch now (c := (c.joined now k s producer o).count _) found
        exact ⟨s', found', birth, subscribers, fun idle => by simp [idle] at flying⟩

/-- Whoever subscribes to a query that nobody else is interested in finds it covered. -/
theorem subscribe_alone (valid : k.isValid = true)
    (covered : ∀ s, c.slots.find? k = some s → s.Covered a settled)
    (nobody : ∀ s, c.slots.find? k = some s → s.subscribers = []) (now : Time.Instant)
    (producer : Nat) (o : Options) :
    ∃ c' h s, c.subscribe now k producer o = .ok (c', h) ∧ h.key = k ∧
      c'.slots.find? k = some s ∧ s.birth = h.birth ∧
      s.subscribers.map Prod.fst = [h.subscriber] ∧ s.Covered a settled := by
  cases hs : c.slots.find? k with
  | none =>
    obtain ⟨s, found, birth, subscribers, flying⟩ := find?_founded now k producer o c
    obtain ⟨timer, found'⟩ := find?_reschedule now found
    refine ⟨_, _, _, subscribe_vacant valid hs, rfl, (found' k).trans (if_pos rfl), birth, ?_,
      .of_flying flying⟩
    rw [subscribers]
    rfl
  | some s =>
    obtain ⟨s', found, birth, subscribers, idle⟩ := find?_served now k s producer o c
    obtain ⟨timer, found'⟩ := find?_reschedule now found
    refine ⟨_, _, _, subscribe_there valid hs, rfl, (found' k).trans (if_pos rfl), birth, ?_, ?_, ?_⟩
    · rw [subscribers, nobody s hs]
      rfl
    · intro settled still _
      obtain ⟨fresh, -, entry⟩ := idle still
      simp only [Slot.isFresh, Bool.and_eq_true, Option.isNone_iff_eq_none,
        Bool.not_eq_true'] at fresh
      rw [entry]
      exact (covered s hs).current settled fresh.1.1 fresh.1.2
    · intro still invalid
      obtain ⟨fresh, same, -⟩ := idle still
      rw [same] at invalid
      simp [Slot.isFresh, invalid] at fresh

/-- When the only subscriber leaves, the entry is left to nobody as it is, or it is evicted. -/
theorem find?_unsubscribe_last (now : Time.Instant) (there : c.slots.find? k = some s)
    (own : h.key = k) (alone : s.subscribers.map Prod.fst = [h.subscriber]) :
    (c.unsubscribe now h).slots.find? k = none ∨
      ∃ timer eviction, (c.unsubscribe now h).slots.find? k =
        some { s with subscribers := [], timer, eviction } := by
  subst own
  obtain ⟨⟨id, interval⟩, only, rfl⟩ := List.map_eq_singleton_iff.mp alone
  have member : s.subscribers.any (fun p => p.1 == h.subscriber) = true := by simp_all
  have nobody : s.staying h.subscriber = [] := by simp_all [Slot.staying]
  obtain ⟨timer, found⟩ := find?_reschedule now
    (find?_setSlot_self c.numbered h.key { s with subscribers := s.staying h.subscriber })
  have left : (c.left now h s).slots.find? h.key = some { s with subscribers := [], timer } := by
    rw [Cache.left, found, if_pos rfl, nobody]
  rw [unsubscribe_member there member, nobody, List.isEmpty_nil, if_pos rfl, abandonEntry]
  split
  · exact .inl ((Table.find?_erase _ _ _).trans (if_pos rfl))
  · simp only [left]
    exact .inr ⟨timer, _, find?_setSlot_self ..⟩

theorem Handle.caughtUp_there (there : c.slots.find? h.key = some s) (same : s.birth = h.birth) :
    h.caughtUp c = { h with seen := s.version } := by
  rw [caughtUp, view_there there same]

theorem Handle.hasChanged_there (there : c.slots.find? h.key = some s) (same : s.birth = h.birth) :
    h.hasChanged c = (h.seen != s.version) := by
  rw [hasChanged, view_there there same]
  rfl

end Cache

/-! ### The watcher -/

namespace Watcher

/-- The watcher is the only subscriber of the slot, and has seen its entry unless a change was published
    since. -/
structure Sees (w : Watcher α) (h : Handle) (s : Slot α) : Prop where
  own : h.key = w.key
  birth : s.birth = h.birth
  alone : s.subscribers.map Prod.fst = [h.subscriber]
  seen : h.seen ≤ s.version
  latest : h.seen = s.version → w.snapshot = some s.entry

/-- The query of the watcher is covered, and has no other subscriber. -/
structure Sound (a : α) (settled : Prop) (w : Watcher α) (slot : Option (Slot α)) : Prop where
  valid : w.key.isValid = true
  covered : ∀ s, slot = some s → s.Covered a settled
  away : w.handle = none → ∀ s, slot = some s → s.subscribers = []
  sees : ∀ h, w.handle = some h → ∃ s, slot = some s ∧ w.Sees h s

theorem Sees.alone_ne_nil (sees : w.Sees h s) : s.subscribers ≠ [] := by
  intro lonely
  have alone := sees.alone
  simp [lonely] at alone

/-- The watcher once it has looked at the slot. -/
theorem sees_caughtUp (there : c.slots.find? h.key = some s) (own : h.key = w.key)
    (birth : s.birth = h.birth) (alone : s.subscribers.map Prod.fst = [h.subscriber]) :
    Sees { w with handle := some (h.caughtUp c), snapshot := h.current c } (h.caughtUp c) s := by
  rw [Handle.caughtUp_there there birth, Handle.current_there there birth]
  exact ⟨own, birth, alone, Nat.le_refl _, fun _ => rfl⟩

namespace Sound

/-- The slot is changed and its subscribers stay. Whatever becomes of the entry is published. -/
theorem becomes (sound : w.Sound a settled (some s)) (covered : s'.Covered a' settled')
    (birth : s'.birth = s.birth) (subscribers : s'.subscribers = s.subscribers)
    (told : s.version < s'.version ∨ s'.version = s.version ∧ s'.entry = s.entry) :
    w.Sound a' settled' (some s') where
  valid := sound.valid
  covered _ there := Option.some.inj there ▸ covered
  away gone _ there := Option.some.inj there ▸ subscribers.trans (sound.away gone s rfl)
  sees h held := by
    obtain ⟨_, there, sees⟩ := sound.sees h held
    obtain rfl := Option.some.inj there
    refine ⟨s', rfl, sees.own, birth.trans sees.birth, subscribers ▸ sees.alone, ?_, ?_⟩
    · have := sees.seen
      omega
    · intro latest
      rcases told with new | ⟨version, entry⟩
      · have := sees.seen
        omega
      · rw [entry]
        exact sees.latest (latest.trans version)

/-- Without an entry there is nothing to cover. -/
theorem vacant (valid : w.key.isValid = true) (gone : w.handle = none) : w.Sound a settled none where
  valid := valid
  covered _ there := by simp at there
  away _ _ there := by simp at there
  sees h held := by simp [gone] at held

theorem gone_of_vacant (sound : w.Sound a settled none) : w.handle = none := by
  refine Option.eq_none_iff_forall_ne_some.mpr fun h held => ?_
  obtain ⟨s, there, -⟩ := sound.sees h held
  simp at there

/-- An entry that is evicted had no subscriber, so the watcher holds no handle. -/
theorem gone_of_lonely (sound : w.Sound a settled (some s)) (lonely : s.subscribers = []) :
    w.handle = none := by
  refine Option.eq_none_iff_forall_ne_some.mpr fun h held => ?_
  obtain ⟨_, there, sees⟩ := sound.sees h held
  obtain rfl := Option.some.inj there
  exact sees.alone_ne_nil lonely

/-! ### What is kept -/

theorem chore {x y : Option (Slot α)} (chore : Chore a x y) (sound : w.Sound a settled x) :
    w.Sound a settled y := by
  cases chore with
  | begin flight => exact sound.becomes (.of_flying rfl) rfl rfl (.inl (Nat.lt_succ_self _))
  | answer now =>
    refine sound.becomes ⟨fun _ _ _ => rfl, fun _ invalid => ?_⟩ rfl rfl (.inl (Nat.lt_succ_self _))
    simp [Slot.publish] at invalid
  | evict lonely => exact vacant sound.valid (sound.gone_of_lonely lonely)

/-- The jobs of the cache leave the query covered. -/
theorem chores (sound : w.Sound a settled (c.slots.find? w.key)) (chores : Chores a w.key c c') :
    w.Sound a settled (c'.slots.find? w.key) :=
  chores.keeps (fun _ _ => chore) sound

/-- What is declared stale is covered, whatever the source has now. -/
theorem invalidate (sound : w.Sound a settled (c.slots.find? w.key)) (now : Time.Instant) (a' : α)
    (settled' : Prop) : w.Sound a' settled' ((c.invalidate now w.key).1.slots.find? w.key) := by
  cases hs : c.slots.find? w.key with
  | none =>
    rw [hs] at sound
    have same : (c.invalidate now w.key).1 = c := by simp [Cache.invalidate, hs]
    rw [same, hs]
    exact vacant sound.valid sound.gone_of_vacant
  | some s =>
    rw [hs] at sound
    obtain ⟨s', found, covered, birth, subscribers, told⟩ := find?_invalidate now a' settled' hs
    rw [found]
    exact sound.becomes covered birth subscribers told

/-- A watcher can always begin to take an interest. -/
theorem attach (sound : w.Sound a settled (c.slots.find? w.key)) (now : Time.Instant) :
    ∃ w' c', w.attach now c = .ok (w', c') ∧ w'.isAttached = true ∧
      w'.Sound a settled (c'.slots.find? w'.key) := by
  unfold Watcher.attach
  cases hw : w.handle with
  | some h => exact ⟨w, c, by simp [isAttached, hw], by simp [isAttached, hw], sound⟩
  | none =>
    obtain ⟨c', h, s, done, own, there, birth, alone, covered⟩ :=
      subscribe_alone sound.valid sound.covered (sound.away hw) now w.producer w.options
    refine ⟨{ w with handle := some (h.caughtUp c'), snapshot := h.current c' }, c', ?_, rfl, ?_⟩
    · simp [isAttached, hw, done]
    · rw [there]
      refine ⟨sound.valid, fun _ same => Option.some.inj same ▸ covered, fun gone => by simp at gone,
        fun h' held => ⟨s, rfl, ?_⟩⟩
      obtain rfl := Option.some.inj held
      exact sees_caughtUp (own.symm ▸ there) own birth alone

/-- A watcher that stops taking an interest leaves its query to nobody. -/
theorem detach (sound : w.Sound a settled (c.slots.find? w.key)) (now : Time.Instant) :
    (w.detach now c).1.Sound a settled
      ((w.detach now c).2.slots.find? (w.detach now c).1.key) := by
  unfold Watcher.detach
  cases hw : w.handle with
  | none => exact sound
  | some h =>
    obtain ⟨s, there, sees⟩ := sound.sees h hw
    have covered := sound.covered s there
    dsimp only
    rcases find?_unsubscribe_last now there sees.own sees.alone with
      gone | ⟨timer, eviction, left⟩
    · rw [gone]
      exact vacant sound.valid rfl
    · rw [left]
      refine ⟨sound.valid, fun _ same => ?_, fun _ _ same => ?_, fun h' held => by simp at held⟩
      · exact Option.some.inj same ▸ ⟨covered.current, fun _ _ => rfl⟩
      · exact Option.some.inj same ▸ rfl

/-- What a watcher sees when it looks is the entry that there is. -/
theorem looks (sound : w.Sound a settled (c.slots.find? w.key)) (held : w.handle = some h) :
    ∃ s, c.slots.find? w.key = some s ∧ (w.sync c).1.snapshot = some s.entry ∧
      (w.sync c).1.key = w.key ∧ (∃ h', (w.sync c).1.handle = some h' ∧ (w.sync c).1.Sees h' s) := by
  obtain ⟨s, there, sees⟩ := sound.sees h held
  have there' : c.slots.find? h.key = some s := sees.own ▸ there
  refine ⟨s, there, ?_⟩
  unfold Watcher.sync
  simp only [held]
  rw [Handle.hasChanged_there there' sees.birth]
  split
  · exact ⟨Handle.current_there there' sees.birth, rfl, _, rfl,
      sees_caughtUp there' sees.own sees.birth sees.alone⟩
  · rename_i same
    have same : h.seen = s.version := by simpa using same
    exact ⟨sees.latest same, rfl, h, held, sees⟩

theorem sync (sound : w.Sound a settled (c.slots.find? w.key)) :
    (w.sync c).1.Sound a settled (c.slots.find? (w.sync c).1.key) ∧
      (w.sync c).1.isAttached = w.isAttached := by
  cases hw : w.handle with
  | none =>
    have still : (w.sync c).1 = w := by simp [Watcher.sync, hw]
    rw [still]
    exact ⟨sound, rfl⟩
  | some h =>
    obtain ⟨s, there, -, own, h', held', sees⟩ := sound.looks hw
    refine ⟨⟨own ▸ sound.valid, own ▸ sound.covered, fun gone => ?_, fun h'' held => ?_⟩, ?_⟩
    · rw [held'] at gone
      simp at gone
    · obtain rfl := Option.some.inj (held'.symm.trans held)
      exact ⟨s, own ▸ there, sees⟩
    · rw [isAttached, isAttached, hw, held']
      rfl

/-- Once it is settled and nothing is in flight, a watcher that looks has the data of the source. -/
theorem shows (sound : w.Sound a settled (c.slots.find? w.key)) (calm : settled)
    (attached : w.isAttached = true) (idle : ∀ s, c.slots.find? w.key = some s → s.inFlight = none) :
    (w.sync c).1.data = some a := by
  obtain ⟨h, held⟩ := Option.isSome_iff_exists.mp attached
  obtain ⟨s, there, snapshot, -, _, -, sees⟩ := sound.looks held
  have covered := sound.covered s there
  have valid : s.invalidated = false :=
    Bool.eq_false_iff.mpr fun invalid =>
      sees.alone_ne_nil (covered.attended (idle s there) invalid)
  rw [Watcher.data, snapshot, Option.bind_some]
  exact covered.current calm (idle s there) valid

end Sound

end Watcher

end TaskWatch
