import TaskWatch.Proofs.Cache.Held

/-! Subscribers are accounted for.

    As many subscribers are counted for a query as there are holders of handles on its entry. A handle
    that is given back takes its own row along, once: afterwards it is a stranger to its query, like
    every handle that was given out before all entries were dropped, and a stranger that leaves
    changes nothing but the number that is given next (`Estranged`). Without grace no entry is left
    without subscribers. -/

namespace TaskWatch.Cache

variable {α : Type} {k : Key} {c c' : Cache α} {s s' : Slot α} {h : Handle}

/-! ### One row for each holder -/

/-- A handle was given back: its row was taken off the slot of its query, which stays unless it was
    the last one and there is no grace. Every other query keeps its subscribers, its timer and its
    eviction. -/
structure Releases (h : Handle) (c c' : Cache α) : Prop where
  row : ∃ s before behind interval, c.slots.find? h.key = some s ∧ s.birth = h.birth ∧
    s.subscribers = before ++ (h.subscriber, interval) :: behind ∧
    ((∃ s', c'.slots.find? h.key = some s' ∧ s'.birth = s.birth ∧
        s'.subscribers = before ++ behind) ∨
      c'.slots.find? h.key = none ∧ before ++ behind = [] ∧ c.grace = 0)
  others : ∀ l, l ≠ h.key → Spares l c c'

/-- Each handle is on the list of those given out once, in the order in which they were. -/
theorem handed_ascending : ∀ past : List (Note α), (handed k past).Pairwise (· < ·)
  | [] => .nil
  | n :: rest => by
    rw [handed]
    split
    · exact .nil
    · split
      · refine List.pairwise_append.mpr ⟨handed_ascending rest, List.pairwise_singleton .., ?_⟩
        intro i hi j hj
        rw [List.mem_singleton.mp hj]
        exact handed_lt hi
      · exact handed_ascending rest

/-- Who stays when the one subscriber with a number leaves. -/
theorem Slot.staying_split {before behind : List (Nat × Nat)} {id interval : Nat}
    (split : s.subscribers = before ++ (id, interval) :: behind)
    (once : (s.subscribers.map Prod.fst).Nodup) : s.staying id = before ++ behind := by
  rw [split, List.map_append, List.map_cons, List.nodup_middle, ← List.map_append] at once
  have other := (List.nodup_cons.mp once).1
  rw [staying, split, List.filter_append, List.filter_cons_of_neg (by simp), ← List.filter_append]
  refine List.filter_eq_self.mpr fun p hp => bne_iff_ne.mpr fun same => other ?_
  exact List.mem_map.mpr ⟨p, hp, same⟩

namespace Course

variable {w w' : Course α} {n : Note α} {i : Nat}

/-- No two holders have the same number of a subscriber. -/
theorem Reachable.holders_nodup (hw : w.Reachable) (k : Key) :
    ((w.holders k).map Handle.subscriber).Nodup := by
  rw [holders, List.map_filterMap]
  refine List.Nodup.filterMap (fun i j id hi hj => ?_)
    ((handed_ascending w.past).imp fun lt => Nat.ne_of_lt lt)
  obtain ⟨h, held, rfl⟩ := Option.map_eq_some_iff.mp hi
  obtain ⟨h', held', same⟩ := Option.map_eq_some_iff.mp hj
  exact hw.distinct.apart i j h h' held held' same.symm

/-- A holder has a row in the slot of the query. -/
theorem Reachable.row (hw : w.Reachable) (held : h ∈ w.holders k) :
    ∃ s before behind interval, w.cache.slots.find? k = some s ∧ h.key = k ∧ s.birth = h.birth ∧
      s.subscribers = before ++ (h.subscriber, interval) :: behind ∧
      s.staying h.subscriber = before ++ behind := by
  have listed : h.ticket ∈ w.cache.tickets k := by
    rw [hw.rows]
    exact List.mem_map_of_mem held
  cases there : w.cache.slots.find? k with
  | none => simp [tickets_vacant there] at listed
  | some s =>
    have ids : s.subscribers.map Prod.fst = (w.holders k).map Handle.subscriber := by
      have rows := congrArg (List.map Ticket.subscriber) (hw.rows k)
      rw [tickets_there there, List.map_map, List.map_map] at rows
      exact rows
    rw [tickets_there there] at listed
    obtain ⟨⟨id, interval⟩, hp, ticket⟩ := List.mem_map.mp listed
    obtain ⟨own, rfl, birth⟩ := Ticket.mk.inj ticket
    obtain ⟨before, behind, split⟩ := List.append_of_mem hp
    exact ⟨s, before, behind, interval, rfl, own.symm, birth, split,
      Slot.staying_split split (ids ▸ hw.holders_nodup k)⟩

/-- A holder who gives the handle back takes along one row. -/
theorem Reachable.releases (hw : w.Reachable) (held : h ∈ w.holders h.key) :
    Releases h w.cache (w.cache.unsubscribe w.now h) := by
  obtain ⟨s, before, behind, interval, there, -, birth, split, stay⟩ := hw.row held
  have member : s.subscribers.any (fun p => p.1 == h.subscriber) = true := by simp [split]
  refine ⟨⟨s, before, behind, interval, there, birth, split, ?_⟩,
    fun l hl => spares_unsubscribe_other hl⟩
  by_cases last : before ++ behind = []
  · by_cases hasty : w.cache.grace = 0
    · obtain ⟨i, -, held⟩ := mem_holders.mp held
      have evicted := hw.evicted_hasty (hw.alive there) (heldAt_eq_some.mp held) there member
        (stay.trans last) hasty
      exact .inr ⟨evicted.gone, last, hasty⟩
    · obtain ⟨s', j, pends, birth', -⟩ :=
        hw.pends_graceful w.handles there member (stay.trans last) hasty
      exact .inl ⟨s', pends.there, birth', pends.lonely.trans last.symm⟩
  · obtain ⟨timer, found⟩ := find?_unsubscribe w.now hw.tended there member (stay ▸ last)
    exact .inl ⟨_, found, rfl, stay⟩

/-! ### Strangers -/

/-- The query has no row for the handle and will never have one again: the numbers given out go on
    from a higher one. -/
structure Estranged (h : Handle) (w : Course α) : Prop where
  numbered : h.subscriber ≤ w.cache.sequence
  absent : ∀ t ∈ w.cache.tickets h.key, t.isOf h = false

theorem Step.estranged (step : Step w w') (hw : w.Reachable) (inv : Estranged h w) :
    Estranged h w' := by
  refine ⟨Nat.le_trans inv.numbered (step.sequence hw), fun t ht => ?_⟩
  cases step.muster hw h.key with
  | same rows holders => exact inv.absent t (rows ▸ ht)
  | @joined h' rows new holders =>
    rw [rows] at ht
    rcases List.mem_append.mp ht with ht | ht
    · exact inv.absent t ht
    · rw [List.mem_singleton.mp ht]
      have other : h'.subscriber ≠ h.subscriber :=
        (Nat.ne_of_lt (Nat.lt_of_le_of_lt inv.numbered new)).symm
      simp [Ticket.isOf, Handle.ticket, other]
  | left h' rows holders => exact inv.absent t (List.mem_filter.mp (rows ▸ ht)).1
  | gone rows holders => exact (List.not_mem_nil (rows ▸ ht)).elim

theorem Leads.estranged (h' : w.Leads w') (hw : w.Reachable) (inv : Estranged h w) :
    Estranged h w' := by
  induction h' with
  | refl => exact inv
  | tail before step ih => exact step.estranged (hw.leads before) ih

/-- A stranger who leaves takes nothing along but a number. -/
theorem Estranged.unsubscribe (inv : Estranged h w) (now : Time.Instant) :
    w.cache.unsubscribe now h = w.cache.numbered := by
  refine unsubscribe_stranger fun s there => List.any_eq_false.mpr fun p hp same => ?_
  have listed : (⟨h.key, p.1, s.birth⟩ : Ticket) ∈ w.cache.tickets h.key := by
    rw [tickets_there there]
    exact List.mem_map_of_mem hp
  have absent := inv.absent _ listed
  simp [Ticket.isOf, beq_iff_eq.mp same] at absent

/-- Whoever gave the handle back is a stranger. -/
theorem Reachable.estranged_left (hw : w.Reachable) (held : w.holder? i = some h) :
    Estranged h { w.after (.unsubscribe h) (w.cache.unsubscribe w.now h) with
      handles := w.handles.set i none } := by
  refine ⟨?_, fun t ht => ?_⟩
  · show h.subscriber ≤ (w.cache.unsubscribe w.now h).sequence
    rw [sequence_unsubscribe]
    exact Nat.le_succ_of_le (hw.distinct.numbered i h held)
  · have rows := tickets_unsubscribe w.now h w.cache h.key
    replace ht : t ∈ (w.cache.unsubscribe w.now h).tickets h.key := ht
    rw [rows] at ht
    simpa using (List.mem_filter.mp ht).2

/-- Whoever holds a handle on an entry that is gone is a stranger. -/
theorem Reachable.estranged (hw : w.Reachable) (held : w.holder? i = some h)
    (gone : i ∉ handed h.key w.past) : Estranged h w := by
  refine ⟨hw.distinct.numbered i h held, fun t ht => ?_⟩
  rw [hw.rows] at ht
  obtain ⟨h', held', rfl⟩ := List.mem_map.mp ht
  obtain ⟨j, listed, held'⟩ := mem_holders.mp held'
  have apart : h'.subscriber ≠ h.subscriber := fun same =>
    gone (hw.distinct.apart j i h' h held' held same ▸ listed)
  simp [Ticket.isOf, Handle.ticket, apart]

/-- Without grace every entry has a subscriber. -/
theorem Reachable.attended (hw : w.Reachable) (hasty : w.cache.grace = 0)
    (there : w.cache.slots.find? k = some s) : s.subscribers ≠ [] := by
  obtain ⟨grace, now, run⟩ := hw
  induction run generalizing s with
  | refl => exact nomatch (fresh_vacant grace now k).symm.trans there
  | @tail v v' before step ih =>
    have hv : v.Reachable := ⟨grace, now, before⟩
    rw [step.grace hv] at hasty
    cases step.turn hv k with
    | spared spares quiet =>
      obtain ⟨s', there', same⟩ := spares.slot_there' there
      have subscribers : s.subscribers = s'.subscribers := congrArg Interest.subscribers same
      exact subscribers ▸ ih hasty there'
    | joined past off there' attended => exact Option.some.inj (there'.symm.trans there) ▸ attended
    | left there₀ attended there' attended' =>
      exact Option.some.inj (there'.symm.trans there) ▸ attended'
    | deserted deserted =>
      exact nomatch (deserted.hasty hv hasty).gone.symm.trans there
    | hasty deserted hasty evicted => exact nomatch evicted.gone.symm.trans there
    | collected pends due evicted => exact nomatch evicted.gone.symm.trans there
    | dropped past all vacant => exact nomatch vacant.symm.trans there

end Course

/-- In every reachable course there are as many subscribers of a query as handles that were given
    out for its entry and are still held. Of a handle that is given back, its own row is taken off
    the entry, and nothing else; if its entry is gone, nothing at all. Neither a handle that was
    given back already nor one that was given out before all entries were dropped ever changes
    anything again but the number that is given next. Without grace every entry has a subscriber. -/
theorem subscribers_accounted {w : Course α} (hw : w.Reachable) :
    (∀ k, w.cache.subscriberCount k = (w.holders k).length) ∧
    (∀ i h, w.holder? i = some h →
      (i ∈ handed h.key w.past → Releases h w.cache (w.cache.unsubscribe w.now h)) ∧
      (i ∉ handed h.key w.past → w.cache.unsubscribe w.now h = w.cache.numbered)) ∧
    (∀ w₁ w₂ n h, Course.Step w w₁ → w₁.past = n :: w.past → n.deed = .unsubscribe h →
      w₁.Leads w₂ → w₂.cache.unsubscribe w₂.now h = w₂.cache.numbered) ∧
    (∀ w₁ w₂ n i h, Course.Step w w₁ → w₁.past = n :: w.past → n.deed = .clear →
      w₁.Leads w₂ → i < w.handles.length → w₂.holder? i = some h →
      w₂.cache.unsubscribe w₂.now h = w₂.cache.numbered) ∧
    (w.cache.grace = 0 → ∀ k s, w.cache.slots.find? k = some s → s.subscribers ≠ []) := by
  refine ⟨fun k => ?_, fun i h held => ⟨fun listed => ?_, fun gone => ?_⟩,
    fun w₁ w₂ n h step past deed leads => ?_,
    fun w₁ w₂ n i h step past deed leads before held => ?_, fun hasty k s => hw.attended hasty⟩
  · rw [subscriberCount_tickets, hw.rows, List.length_map]
  · exact hw.releases (Course.mem_holders.mpr ⟨i, listed, held⟩)
  · exact (hw.estranged held gone).unsubscribe w.now
  · obtain ⟨i, -, held, rfl⟩ := step.of_unsubscribe past deed
    have estranged := hw.estranged_left (heldAt_eq_some.mpr held)
    exact (Course.Leads.estranged leads (hw.leads (.single step)) estranged).unsubscribe w₂.now
  · have hw₂ : w₂.Reachable := hw.leads (.head step leads)
    refine (hw₂.estranged held fun listed => ?_).unsubscribe w₂.now
    -- The handle is older than the last note that drops the entry.
    obtain ⟨newer, past₂⟩ := Course.Leads.books leads
    have drops : n.drops h.key = true := by simp [Note.drops, Note.signs, deed, Deed.sign?, Sign.drops]
    rw [past₂, past] at listed
    have older : i < givenOut (n :: w.past) := by
      rw [givenOut_cons, ← hw.distinct.given]
      exact Nat.lt_add_right _ before
    have listed := (handed_append listed older).1
    rw [handed, if_pos drops] at listed
    exact List.not_mem_nil listed

/-- Somebody subscribed, everything was cleared, and somebody else subscribed to the same query:
    the handle given out first, if it is given back now, leaves the new entry as it is. -/
theorem old_handle_leaves_new_entry :
    let w : Course Nat := .played 0 [.subscribe (.single "tasks") 0 {}, .clear,
      .subscribe (.single "tasks") 0 { interval := 100 }]
    w.cache.subscriberCount (.single "tasks") = 1 ∧
      ∃ h, w.holder? 0 = some h ∧ h.key = .single "tasks" ∧
        w.cache.unsubscribe w.now h = w.cache.numbered := by
  intro w
  have hw : w.Reachable := Course.reachable_played 0 _
  obtain ⟨counted, released, -⟩ := subscribers_accounted hw
  have held : w.holder? 0 = some ⟨.single "tasks", 1, 1, 0⟩ := by decide
  refine ⟨(counted _).trans (by decide), _, held, rfl, (released 0 _ held).2 (by decide)⟩

end TaskWatch.Cache
