import TaskWatch.Proofs.Cache.Serving
import TaskWatch.Proofs.Cache.Sharing

/-! How users fare with a cache that is shared.

    Whoever subscribes, leaves, fetches anew or looks at an entry gets the same answers from the shared
    cache as from the cache of their own party. To clear the cache clears those of both parties. -/

namespace TaskWatch.Cache

variable {α : Type} {P : Parties} {T T' T₁ T₂ : Tie} {c c₁ c₂ : Cache α} {k : Key} {s s₁ : Slot α}
  {now : Time.Instant} {t t₁ t₂ : Nat} {o : Options} {producer : Nat}

/-- A handle, with other numbers. -/
structure Handle.Like (T : Tie) (h h' : Handle) : Prop where
  key : h.key = h'.key
  subscriber : T.number h.subscriber h'.subscriber
  birth : T.number h.birth h'.birth
  seen : h.seen = h'.seen

theorem Handle.Like.mono {h h' : Handle} (le : T.Within T') (like : h.Like T h') : h.Like T' h' :=
  ⟨like.key, le.number _ _ like.subscriber, le.number _ _ like.birth, like.seen⟩

namespace Shared

/-! ### Subscribing -/

theorem founded (h : Shared P T₁ T₂ c c₁ c₂) (now : Time.Instant) (t : Nat) (own : P.first.keys k)
    (mine : P.first.producers producer) (o : Options) :
    ∃ T, T₁.Within T ∧ T.number c.nextNumber c₁.nextNumber ∧
      Shared P T T₂ (c.founded now k producer o) (c₁.founded (now.onTurn t) k producer o) c₂ := by
  obtain ⟨T, le, number, numbered⟩ := h.numbered
  let first (id : Nat) : Slot α :=
    { birth := id, entry := .idle k, producer := producer, subscribers := [(id, o.interval)] }
  have made : Slot.Like T (first c.nextNumber) (first c₁.nextNumber) :=
    ⟨number, rfl, rfl, rfl, .cons ⟨number, rfl⟩ .nil, .none, rfl, .none, .none⟩
  have found : Shared P T T₂ (c.numbered.found k producer o c.nextNumber)
      (c₁.numbered.found k producer o c₁.nextNumber) c₂ := (numbered.setSlot own made mine).count _ _
  obtain ⟨T', le', started, -⟩ := found.startFetch now t own false
  exact ⟨T', le.trans le', le'.number _ _ number, started⟩

theorem joined (h : Shared P T₁ T₂ c c₁ c₂) (now : Time.Instant) (t : Nat) (own : P.first.keys k)
    (mine : P.first.producers producer) (like : s.Like T₁ s₁) (o : Options) :
    ∃ T, T₁.Within T ∧ T.number c.nextNumber c₁.nextNumber ∧
      Shared P T T₂ (c.joined now k s producer o) (c₁.joined (now.onTurn t) k s₁ producer o) c₂ := by
  obtain ⟨T, le, number, numbered⟩ := h.numbered
  have like := like.mono le
  have called_off := numbered.abort? now t
    (rel_map like.eviction fun _ _ evictions => evictions.job)
  have slot : Slot.Like T
      { s with eviction := none, producer,
               subscribers := s.subscribers ++ [(c.nextNumber, o.interval)] }
      { s₁ with eviction := none, producer,
                subscribers := s₁.subscribers ++ [(c₁.nextNumber, o.interval)] } :=
    { like with
      producer := rfl
      subscribers := List.rel_append like.subscribers (.cons ⟨number, rfl⟩ .nil)
      eviction := .none }
  exact ⟨T, le, number, called_off.setSlot own slot mine⟩

theorem served (h : Shared P T₁ T₂ c c₁ c₂) (now : Time.Instant) (t : Nat) (own : P.first.keys k)
    (mine : P.first.producers producer) (like : s.Like T₁ s₁) (o : Options) :
    ∃ T, T₁.Within T ∧ T.number c.nextNumber c₁.nextNumber ∧
      Shared P T T₂ (c.served now k s producer o) (c₁.served (now.onTurn t) k s₁ producer o) c₂ := by
  obtain ⟨T, le, number, joined⟩ := h.joined now t own mine like o
  have flies : s.inFlight.isSome = s₁.inFlight.isSome :=
    rel_any (p := fun _ => true) (q := fun _ => true) like.inFlight fun _ _ _ => rfl
  have fresh : s.isFresh now o = s₁.isFresh (now.onTurn t) o := by
    unfold Slot.isFresh
    rw [← Option.not_isSome, flies, Option.not_isSome, like.invalidated, like.entry]
    rfl
  unfold Cache.served
  dsimp only
  rw [flies, fresh, like.entry]
  split
  · exact ⟨T, le, number, (joined.count _ _).report _ _⟩
  · split
    · exact ⟨T, le, number, joined.count _ _⟩
    · split
      all_goals
        obtain ⟨T', le', started, -⟩ := (joined.count _ _).startFetch now t own false
        exact ⟨T', le.trans le', le'.number _ _ number, started⟩

/-- To subscribe is answered alike, and the handles go with each other. -/
theorem subscribe (h : Shared P T₁ T₂ c c₁ c₂) (now : Time.Instant) (t : Nat) (own : P.first.keys k)
    (mine : P.first.producers producer) (o : Options) :
    (∃ m, c.subscribe now k producer o = .error m ∧
      c₁.subscribe (now.onTurn t) k producer o = .error m) ∨
    ∃ d hd d₁ hd₁ T, c.subscribe now k producer o = .ok (d, hd) ∧
      c₁.subscribe (now.onTurn t) k producer o = .ok (d₁, hd₁) ∧
      T₁.Within T ∧ hd.Like T hd₁ ∧ Shared P T T₂ d d₁ c₂ := by
  cases valid : k.isValid with
  | false =>
    refine .inl ⟨.emptyKey, ?_, ?_⟩ <;> simp [Cache.subscribe, valid]
  | true =>
    refine .inr ?_
    rcases h.cases own with ⟨vacant, vacant₁⟩ | ⟨s, s₁, there, there₁, -, like⟩
    · obtain ⟨T, le, number, founded⟩ := h.founded now t own mine o
      obtain ⟨T', le', done⟩ := founded.reschedule now t own
      have number := le'.number _ _ number
      exact ⟨_, _, _, _, T', subscribe_vacant valid vacant, subscribe_vacant valid vacant₁,
        le.trans le', ⟨rfl, number, number, rfl⟩, done⟩
    · obtain ⟨T, le, number, served⟩ := h.served now t own mine like o
      obtain ⟨T', le', done⟩ := served.reschedule now t own
      exact ⟨_, _, _, _, T', subscribe_there valid there, subscribe_there valid there₁,
        le.trans le', ⟨rfl, le'.number _ _ number, (like.mono (le.trans le')).birth, like.version⟩,
        done⟩

/-! ### Leaving -/

theorem members (h : Shared P T₁ T₂ c c₁ c₂) {id id₁ : Nat} (tied : T₁.number id id₁)
    {xs xs₁ : List (Nat × Nat)}
    (like : List.Forall₂ (fun p p' => T₁.number p.1 p'.1 ∧ p.2 = p'.2) xs xs₁) :
    xs.any (fun p => p.1 == id) = xs₁.any (fun p => p.1 == id₁) ∧
      List.Forall₂ (fun p p' => T₁.number p.1 p'.1 ∧ p.2 = p'.2)
        (xs.filter (fun p => p.1 != id)) (xs₁.filter (fun p => p.1 != id₁)) := by
  induction like with
  | nil => exact ⟨rfl, .nil⟩
  | @cons p p₁ _ _ same rest ih =>
    have test : (p.1 == id) = (p₁.1 == id₁) := h.numbers.beq_same same.1 tied
    rw [List.any_cons, List.any_cons, List.filter_cons, List.filter_cons, bne, bne, test]
    refine ⟨congrArg _ ih.1, ?_⟩
    split
    · exact .cons same ih.2
    · exact ih.2

theorem abandonEntry (h : Shared P T₁ T₂ c c₁ c₂) (now : Time.Instant) (t : Nat)
    (own : P.first.keys k) {token token₁ : Nat} (tied : T₁.number token token₁) :
    ∃ T, T₁.Within T ∧ Shared P T T₂ (c.abandonEntry now k token)
      (c₁.abandonEntry (now.onTurn t) k token₁) c₂ := by
  unfold Cache.abandonEntry
  rw [h.grace.1]
  split
  · exact ⟨T₁, .refl T₁, h.evict own⟩
  · rcases h.cases own with ⟨vacant, vacant₁⟩ | ⟨s, s₁, there, there₁, producer, like⟩
    · rw [vacant, vacant₁]
      exact ⟨T₁, .refl T₁, h⟩
    · rw [there, there₁]
      obtain ⟨T, le, job, spawned⟩ := h.spawn now t (.collect tied) own
        (now.elapsed + c₁.grace)
      have slot := (like.mono le).pending (le.number _ _ tied) job
      exact ⟨T, le, (spawned.setSlot own slot producer).report _ _⟩

/-- Who subscribed for one party is a stranger to the queries of the other. -/
theorem stranger (h : Shared P T₁ T₂ c c₁ c₂) {id id₁ : Nat} (tied : T₁.number id id₁)
    {s s₂ : Slot α} (alike : s.Like T₂ s₂) : s.subscribers.any (fun p => p.1 == id) = false := by
  have others : ∀ p ∈ s.subscribers, ∃ x, T₂.number p.1 x :=
    ((List.forall₂_and_left _ _).mp
      (alike.subscribers.imp fun _ p₂ same => ⟨⟨p₂.1, same.1⟩, same⟩)).1
  refine List.any_eq_false.mpr fun p hp => ?_
  obtain ⟨x, tied'⟩ := others p hp
  rw [h.numbers.beq_apart tied tied']
  exact Bool.false_ne_true

/-- A subscriber leaves in both caches, perhaps as the last one. -/
theorem unsubscribe_members (h : Shared P T₁ T₂ c c₁ c₂) (now : Time.Instant) (t : Nat)
    {hd hd₁ : Handle} (same : hd.key = hd₁.key) (tied : T₁.number hd.subscriber hd₁.subscriber)
    (own : P.first.keys hd.key) (mine : P.first.producers s.producer) (alike : s.Like T₁ s₁)
    (there : c.slots.find? hd.key = some s) (there₁ : c₁.slots.find? hd₁.key = some s₁)
    (member : s.subscribers.any (fun p => p.1 == hd.subscriber) = true) :
    ∃ T, T₁.Within T ∧
      Shared P T T₂ (c.unsubscribe now hd) (c₁.unsubscribe (now.onTurn t) hd₁) c₂ := by
  obtain ⟨key, id, birth, seen⟩ := hd
  obtain ⟨key₁, id₁, birth₁, seen₁⟩ := hd₁
  obtain rfl : key = key₁ := same
  obtain ⟨T, le, number, numbered⟩ := h.numbered
  obtain ⟨members, staying⟩ := h.members tied alike.subscribers
  rw [unsubscribe_member there member, unsubscribe_member there₁ (members.symm.trans member)]
  have slot : Slot.Like T { s with subscribers := s.staying id }
      { s₁ with subscribers := s₁.staying id₁ } :=
    { alike.mono le with
      subscribers := staying.imp fun _ _ same => same.imp_left (le.number _ _) }
  obtain ⟨T', le', left⟩ := (numbered.setSlot own slot mine).reschedule now t own
  rw [show (s.staying id).isEmpty = (s₁.staying id₁).isEmpty from slot.lonely]
  split
  · obtain ⟨T'', le'', done⟩ := left.abandonEntry now t own (le'.number _ _ number)
    exact ⟨T'', (le.trans le').trans le'', done⟩
  · exact ⟨T', le.trans le', left⟩

/-- Who leaves was a subscriber in both caches, or in neither. -/
theorem unsubscribe (h : Shared P T₁ T₂ c c₁ c₂) (now : Time.Instant) (t : Nat)
    {hd hd₁ : Handle} (like : hd.Like T₁ hd₁) :
    ∃ T, T₁.Within T ∧
      Shared P T T₂ (c.unsubscribe now hd) (c₁.unsubscribe (now.onTurn t) hd₁) c₂ := by
  obtain ⟨same, tied, -, -⟩ := like
  obtain ⟨T, le, -, numbered⟩ := h.numbered
  have finds := h.finds hd.key
  generalize there : c.slots.find? hd.key = found, there₁ : c₁.slots.find? hd.key = found₁,
    c₂.slots.find? hd.key = found₂ at finds
  rw [same] at there₁
  cases finds with
  | none =>
    rw [unsubscribe_stranger (by simp [there]), unsubscribe_stranger (by simp [there₁])]
    exact ⟨T, le, numbered⟩
  | second _ _ alike =>
    rw [unsubscribe_stranger (by simpa [there] using h.stranger tied alike),
      unsubscribe_stranger (by simp [there₁])]
    exact ⟨T, le, numbered⟩
  | @first s s₁ own mine alike =>
    cases member : s.subscribers.any (fun p => p.1 == hd.subscriber) with
    | true => exact h.unsubscribe_members now t same tied own mine alike there there₁ member
    | false =>
      have member₁ := (h.members tied alike.subscribers).1.symm.trans member
      rw [unsubscribe_stranger (by simpa [there] using member),
        unsubscribe_stranger (by simpa [there₁] using member₁)]
      exact ⟨T, le, numbered⟩

/-! ### Fetching anew -/

theorem refetch (h : Shared P T₁ T₂ c c₁ c₂) (now : Time.Instant) (t : Nat) (own : P.first.keys k) :
    (∃ m, c.refetch now k = .error m ∧ c₁.refetch (now.onTurn t) k = .error m) ∨
    ∃ d d₁ T, c.refetch now k = .ok d ∧ c₁.refetch (now.onTurn t) k = .ok d₁ ∧
      T₁.Within T ∧ Shared P T T₂ d d₁ c₂ := by
  unfold Cache.refetch
  rcases h.cases own with ⟨vacant, vacant₁⟩ | ⟨s, s₁, there, there₁, -, -⟩
  · rw [vacant, vacant₁]
    exact .inl ⟨_, rfl, rfl⟩
  · rw [there, there₁]
    obtain ⟨T, le, started, -⟩ := h.startFetch now t own true
    exact .inr ⟨_, _, T, rfl, rfl, le, started⟩

theorem invalidate (h : Shared P T₁ T₂ c c₁ c₂) (now : Time.Instant) (t : Nat) (own : P.first.keys k) :
    ∃ T, T₁.Within T ∧
      Shared P T T₂ (c.invalidate now k).1 (c₁.invalidate (now.onTurn t) k).1 c₂ ∧
      (c.invalidate now k).2 = (c₁.invalidate (now.onTurn t) k).2 := by
  unfold Cache.invalidate
  rcases h.cases own with ⟨vacant, vacant₁⟩ | ⟨s, s₁, there, there₁, producer, like⟩
  · rw [vacant, vacant₁]
    exact ⟨T₁, .refl T₁, h, rfl⟩
  · rw [there, there₁]
    have marked := (h.setSlot own (like.marked true) producer).report
      (.invalidated k !s.subscribers.isEmpty) (.invalidated k !s₁.subscribers.isEmpty)
    dsimp only
    rw [show (!s.subscribers.isEmpty) = !s₁.subscribers.isEmpty from congrArg _ like.lonely] at marked ⊢
    split
    · obtain ⟨T, le, started, -⟩ := marked.startFetch now t own false
      exact ⟨T, le, started, rfl⟩
    · exact ⟨T₁, .refl T₁, marked, rfl⟩

/-! ### Dropping every entry -/

theorem abortAll (h : Shared P T₁ T₂ c c₁ c₂) (now : Time.Instant) (t : Nat) (like : s.Like T₁ s₁) :
    Shared P T₁ T₂ (c.abortAll now s) (c₁.abortAll (now.onTurn t) s₁) c₂ :=
  ((h.abort? now t (rel_map like.inFlight fun _ _ flights => flights.job)).abort? now t
    (rel_map like.timer fun _ _ timers => timers.job)).abort? now t
    (rel_map like.eviction fun _ _ evictions => evictions.job)

theorem foldl_abortAll (now : Time.Instant) (t₁ t₂ : Nat) {rows rows₁ rows₂ : List (Key × Slot α)}
    (slots : Shuffle (Row.Like P.first T₁) (Row.Like P.second T₂) rows rows₁ rows₂) :
    ∀ {c c₁ c₂ : Cache α}, Shared P T₁ T₂ c c₁ c₂ → Shared P T₁ T₂
      ((rows.map Prod.snd).foldl (fun c s => c.abortAll now s) c)
      ((rows₁.map Prod.snd).foldl (fun c s => c.abortAll (now.onTurn t₁) s) c₁)
      ((rows₂.map Prod.snd).foldl (fun c s => c.abortAll (now.onTurn t₂) s) c₂) := by
  induction slots with
  | nil => exact id
  | left like _ ih => exact fun h => ih (h.abortAll now t₁ like.slot)
  | right like _ ih => exact fun h => ih (h.swap.abortAll now t₂ like.slot).swap

theorem dropEntries (h : Shared P T₁ T₂ c c₁ c₂) (now : Time.Instant) (t₁ t₂ : Nat) :
    Shared P T₁ T₂ (c.dropEntries now) (c₁.dropEntries (now.onTurn t₁))
      (c₂.dropEntries (now.onTurn t₂)) := by
  have dropped := foldl_abortAll now t₁ t₂ h.slots h
  rw [foldl_abortAll_eq now, foldl_abortAll_eq (now.onTurn t₁),
    foldl_abortAll_eq (now.onTurn t₂)] at dropped
  unfold Cache.dropEntries
  dsimp only
  rw [foldl_abortAll_eq now, foldl_abortAll_eq (now.onTurn t₁), foldl_abortAll_eq (now.onTurn t₂)]
  have remains := (h.slots.map (f := Prod.snd) (g := Prod.snd) (k := Prod.snd)
    (fun _ _ like => like.slot) fun _ _ like => like.slot).map (f := Slot.remains)
    (g := Slot.remains) (k := Slot.remains) (U := Remains.Like T₁) (V := Remains.Like T₂)
    (fun _ _ like => ⟨like.birth, like.entry, like.version⟩)
    fun _ _ like => ⟨like.birth, like.entry, like.version⟩
  exact { dropped with slots := .nil, remains := remains.append h.remains }

theorem clear (h : Shared P T₁ T₂ c c₁ c₂) (now : Time.Instant) (t₁ t₂ : Nat) :
    Shared P T₁ T₂ (c.clear now) (c₁.clear (now.onTurn t₁)) (c₂.clear (now.onTurn t₂)) :=
  { h.dropEntries now t₁ t₂ with }

theorem abandon (h : Shared P T₁ T₂ c c₁ c₂) (now : Time.Instant) (t₁ t₂ : Nat) :
    Shared P T₁ T₂ (c.abandon now) (c₁.abandon (now.onTurn t₁)) (c₂.abandon (now.onTurn t₂)) :=
  { h.dropEntries now t₁ t₂ with abandoned := ⟨rfl, rfl⟩ }

/-! ### What is seen -/

theorem entry? (h : Shared P T₁ T₂ c c₁ c₂) (own : P.first.keys k) : c.entry? k = c₁.entry? k := by
  unfold Cache.entry?
  rcases h.cases own with ⟨vacant, vacant₁⟩ | ⟨s, s₁, there, there₁, -, like⟩
  · rw [vacant, vacant₁]
  · rw [there, there₁]
    exact congrArg some like.entry

theorem subscriberCount (h : Shared P T₁ T₂ c c₁ c₂) (own : P.first.keys k) :
    c.subscriberCount k = c₁.subscriberCount k := by
  unfold Cache.subscriberCount
  rcases h.cases own with ⟨vacant, vacant₁⟩ | ⟨s, s₁, there, there₁, -, like⟩
  · rw [vacant, vacant₁]
  · rw [there, there₁]
    exact like.subscribers.length_eq

/-- What the holder of a handle sees, whatever the query. -/
theorem view (h : Shared P T₁ T₂ c c₁ c₂) {hd hd₁ : Handle} (like : hd.Like T₁ hd₁) :
    hd.view c = hd₁.view c₁ := by
  obtain ⟨key, id, birth, seen⟩ := hd
  obtain ⟨key₁, id₁, birth₁, seen₁⟩ := hd₁
  obtain ⟨rfl, -, tied, -⟩ := like
  have remains : (c.remains.find? (fun r => r.birth == birth)).map
        (fun r => (r.entry, r.version, false)) =
      (c₁.remains.find? (fun r => r.birth == birth₁)).map (fun r => (r.entry, r.version, false)) :=
    rel_map_eq (h.remains.find? (fun r r₁ alike => h.numbers.beq_same alike.birth tied)
      fun r r₂ alike => h.numbers.beq_apart tied alike.birth)
      fun r r₁ alike => by rw [alike.entry, alike.version]
  have finds := h.finds key
  unfold Handle.view
  dsimp only
  generalize c.slots.find? key = found, c₁.slots.find? key = found₁,
    c₂.slots.find? key = found₂ at finds
  cases finds with
  | none => exact remains
  | @first s s₁ own producer alike =>
    rw [Option.filter_some, Option.filter_some, h.numbers.beq_same alike.birth tied]
    dsimp only
    cases s₁.birth == birth₁ with
    | true =>
      show some (s.entry, s.version, true) = some (s₁.entry, s₁.version, true)
      rw [alike.entry, alike.version]
    | false => exact remains
  | second own producer alike =>
    rw [Option.filter_some, h.numbers.beq_apart tied alike.birth]
    exact remains

end Shared

/-! ### What follows from what is seen -/

namespace Handle.Like

variable {hd hd₁ : Handle}

theorem current (same : hd.view c = hd₁.view c₁) : hd.current c = hd₁.current c₁ :=
  congrArg (Option.map Prod.fst) same

/-- Both have caught up. -/
theorem caughtUp (like : hd.Like T hd₁) (same : hd.view c = hd₁.view c₁) :
    (hd.caughtUp c).Like T (hd₁.caughtUp c₁) := by
  unfold Handle.caughtUp
  rw [same]
  split
  · exact { like with seen := rfl }
  · exact like

theorem change? (like : hd.Like T hd₁) (same : hd.view c = hd₁.view c₁) :
    hd.change? c = hd₁.change? c₁ := by
  unfold Handle.change?
  rw [same, like.seen, like.key]

theorem match? (like : hd.Like T hd₁) (same : hd.view c = hd₁.view c₁) (wanted : Entry α → Bool) :
    hd.match? wanted c = hd₁.match? wanted c₁ := by
  unfold Handle.match?
  rw [same, like.key]

end Handle.Like

end TaskWatch.Cache
