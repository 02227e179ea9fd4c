import TaskWatch.Proofs.Cache.Eviction

/-! Who holds a handle.

    From the book it can be told which handles were given out for the entry that a query has now: those
    for which somebody subscribed since an entry of the query was last dropped. Of these, the ones
    that were not given back are the holders of the query. The cache keeps a row for each of them and
    no others, in the same order. A step adds a row with the handle that it gives out, takes off the
    row of a handle that is given back, or drops all rows with the entry (`Muster`). The number of a
    subscriber is never given out twice, so a handle whose row is gone is a stranger for good. -/

namespace TaskWatch.Cache

variable {α : Type} {now : Time.Instant} {k l : Key} {c c' : Cache α} {s : Slot α} {h : Handle}

/-! ### Handles in the book -/

/-- Somebody subscribes to the query. -/
def Deed.joins (k : Key) : Deed α → Bool
  | .subscribe l _ _ => l == k
  | _ => false

/-- A handle is given out. -/
def Deed.isSubscribe : Deed α → Bool
  | .subscribe _ _ _ => true
  | _ => false

/-- The entry of the query was dropped. -/
def Note.drops (k : Key) (n : Note α) : Bool := (n.signs k).any (fun x => x.2.drops)

/-- How many handles were given out. -/
def givenOut (past : List (Note α)) : Nat := past.countP (fun n => n.deed.isSubscribe)

/-- The numbers of the handles given out for the entry that the query has now, the latest last. -/
def handed (k : Key) : List (Note α) → List Nat
  | [] => []
  | n :: rest =>
    if n.drops k then []
    else if n.deed.joins k then handed k rest ++ [givenOut rest]
    else handed k rest

/-- What tells a handle from others, whatever its holder has seen. -/
structure Ticket where
  key : Key
  subscriber : Nat
  birth : Nat
  deriving DecidableEq, Repr

/-- The ticket of a handle. -/
def Handle.ticket (h : Handle) : Ticket :=
  { key := h.key, subscriber := h.subscriber, birth := h.birth }

/-- The ticket is that of the handle, as far as the subscribers of a query are told apart. -/
def Ticket.isOf (h : Handle) (t : Ticket) : Bool := t.key == h.key && t.subscriber == h.subscriber

/-- The handle in this place, unless it was given back. -/
def heldAt (handles : List (Option Handle)) (i : Nat) : Option Handle := handles[i]?.join

namespace Course

/-- The handle with this number, if it is still held. -/
def holder? (w : Course α) (i : Nat) : Option Handle := heldAt w.handles i

/-- The handles on the entry that the query has now and that are still held. -/
def holders (w : Course α) (k : Key) : List Handle := (handed k w.past).filterMap w.holder?

end Course

/-- The tickets that the cache has a row for among the subscribers of the query. -/
def tickets (c : Cache α) (k : Key) : List Ticket :=
  match c.slots.find? k with
  | some s => s.subscribers.map (fun p => { key := k, subscriber := p.1, birth := s.birth })
  | none => []

/-! ### What is done to tickets -/

theorem tickets_there (there : c.slots.find? k = some s) : c.tickets k =
    s.subscribers.map (fun p => { key := k, subscriber := p.1, birth := s.birth }) := by
  rw [tickets, there]

theorem tickets_vacant (vacant : c.slots.find? k = none) : c.tickets k = [] := by
  rw [tickets, vacant]

theorem tickets_key {t : Ticket} (ht : t ∈ c.tickets k) : t.key = k := by
  cases hs : c.slots.find? k with
  | none =>
    rw [tickets_vacant hs] at ht
    exact (List.not_mem_nil ht).elim
  | some s =>
    rw [tickets_there hs] at ht
    obtain ⟨p, -, rfl⟩ := List.mem_map.mp ht
    rfl

theorem subscriberCount_tickets (c : Cache α) (k : Key) :
    c.subscriberCount k = (c.tickets k).length := by
  cases hs : c.slots.find? k with
  | none => rw [subscriberCount_vacant hs, tickets_vacant hs, List.length_nil]
  | some s => rw [subscriberCount_there hs, tickets_there hs, List.length_map]

/-- The same subscribers of the same entry have the same tickets. -/
theorem tickets_congr (same : (c'.slots.find? k).map Slot.interest =
    (c.slots.find? k).map Slot.interest) : c'.tickets k = c.tickets k := by
  cases hs : c.slots.find? k with
  | none =>
    rw [hs] at same
    rw [tickets_vacant hs, tickets_vacant (Option.map_eq_none_iff.mp same)]
  | some s =>
    rw [hs, Option.map_some] at same
    obtain ⟨s', hs', same⟩ := Option.map_eq_some_iff.mp same
    have birth : s'.birth = s.birth := congrArg Interest.birth same
    have subscribers : s'.subscribers = s.subscribers := congrArg Interest.subscribers same
    rw [tickets_there hs, tickets_there hs', birth, subscribers]

theorem Spares.tickets (h : Spares k c c') : c'.tickets k = c.tickets k := tickets_congr h.slot

theorem tickets_reschedule : (c.reschedule now k).tickets l = c.tickets l := by
  by_cases hl : l = k
  · subst hl
    cases hs : c.slots.find? l with
    | none => rw [reschedule_vacant hs]
    | some s =>
      obtain ⟨timer, found⟩ := find?_reschedule now hs
      rw [tickets_there hs, tickets_there ((found l).trans (if_pos rfl))]
  · exact (spares_reschedule_other hl).tickets

/-- Whoever joins an entry takes a number along. -/
theorem sequence_served (now : Time.Instant) (k : Key) (s : Slot α) (producer : Nat) (o : Options)
    (c : Cache α) : c.nextNumber ≤ (c.served now k s producer o).sequence := by
  obtain ⟨-, sequence, -⟩ := joined_spec (k := k) (s := s) now producer o c
  have started (f : Stats → Stats) : (c.joined now k s producer o).sequence ≤
      (((c.joined now k s producer o).count f).startFetch now k false).1.sequence := by
    have start : Change now none ((c.joined now k s producer o).count f)
      (((c.joined now k s producer o).count f).startFetch now k false).1 := .start
    exact start.sequence
  rw [nextNumber, ← sequence]
  unfold served
  dsimp only
  split
  · exact Nat.le_refl _
  · split
    · exact Nat.le_refl _
    · split <;> exact started _

/-- Whoever subscribes is added to the subscribers of the entry that there is, or is the first. -/
theorem tickets_subscribe {producer : Nat} {o : Options}
    (done : c.subscribe now k producer o = .ok (c', h)) :
    c'.tickets k = c.tickets k ++ [h.ticket] ∧ h.key = k ∧ h.subscriber = c.nextNumber ∧
      h.subscriber ≤ c'.sequence := by
  have valid := valid_of_subscribe done
  cases hs : c.slots.find? k with
  | none =>
    rw [subscribe_vacant valid hs, Except.ok.injEq, Prod.mk.injEq] at done
    obtain ⟨rfl, rfl⟩ := done
    have spared : Spares k _ (c.founded now k producer o) := spares_startFetch
    refine ⟨?_, rfl, rfl, ?_⟩
    · rw [tickets_reschedule, spared.tickets, tickets_there (find?_found ..), tickets_vacant hs]
      rfl
    · rw [sequence_reschedule, founded, startFetch_idle (find?_found ..) rfl]
      exact Nat.le_succ _
  | some s =>
    rw [subscribe_there valid hs, Except.ok.injEq, Prod.mk.injEq] at done
    obtain ⟨rfl, rfl⟩ := done
    obtain ⟨-, -, found⟩ := joined_spec (k := k) (s := s) now producer o c
    refine ⟨?_, rfl, rfl, ?_⟩
    · rw [tickets_reschedule, (spares_served now k s producer o c).tickets, tickets_there found,
        tickets_there hs, List.map_append]
      rfl
    · rw [sequence_reschedule]
      exact sequence_served now k s producer o c

theorem tickets_evict : (c.evict k).tickets k = [] :=
  tickets_vacant ((Table.find?_erase c.slots k k).trans (if_pos rfl))

/-- An entry that nobody holds has no rows, whether it is evicted or kept for a while. -/
theorem tickets_abandonEntry {token : Nat} (nobody : c.tickets k = []) :
    (c.abandonEntry now k token).tickets k = [] := by
  unfold abandonEntry
  split
  · exact tickets_evict
  · cases hs : c.slots.find? k with
    | none => exact nobody
    | some s =>
      rw [tickets_there hs] at nobody
      exact (tickets_there (find?_setSlot_self ..)).trans nobody

/-- The rows of an entry once a subscriber has left. -/
theorem tickets_left (now : Time.Instant) (there : c.slots.find? h.key = some s) :
    (c.left now h s).tickets h.key = (c.tickets h.key).filter (fun t => !t.isOf h) := by
  rw [left, tickets_reschedule, tickets_there (find?_setSlot_self ..), tickets_there there,
    List.filter_map]
  refine congrArg _ (List.filter_congr fun p _ => ?_)
  simp [Ticket.isOf, bne]

/-- Whoever leaves takes along the row that the query has for them, and no other. -/
theorem tickets_unsubscribe (now : Time.Instant) (h : Handle) (c : Cache α) (k : Key) :
    (c.unsubscribe now h).tickets k = (c.tickets k).filter (fun t => !t.isOf h) := by
  by_cases hk : k = h.key
  · subst hk
    rcases unsubscribe_cases c h with ⟨s, there, member⟩ | stranger
    · rw [unsubscribe_member there member, ← tickets_left now there]
      split
      · rename_i nobody
        have left : (c.left now h s).tickets h.key = [] := by
          rw [left, tickets_reschedule, tickets_there (find?_setSlot_self ..),
            List.isEmpty_iff.mp nobody, List.map_nil]
        rw [tickets_abandonEntry left, left]
      · rfl
    · refine (spares_unsubscribe_stranger stranger).tickets.trans (List.filter_eq_self.mpr ?_).symm
      intro t ht
      cases hs : c.slots.find? h.key with
      | none => simp [tickets_vacant hs] at ht
      | some s =>
        rw [tickets_there hs] at ht
        obtain ⟨p, hp, rfl⟩ := List.mem_map.mp ht
        have other := List.any_eq_false.mp (stranger s hs) p hp
        simpa [Ticket.isOf] using other
  · refine (spares_unsubscribe_other hk).tickets.trans (List.filter_eq_self.mpr ?_).symm
    intro t ht
    simp [Ticket.isOf, tickets_key ht, hk]

/-! ### What the book says of handles -/

theorem givenOut_cons (n : Note α) (past : List (Note α)) :
    givenOut (n :: past) = givenOut past + if n.deed.isSubscribe then 1 else 0 :=
  List.countP_cons

theorem Deed.isSubscribe_of_joins {deed : Deed α} (joins : deed.joins k = true) :
    deed.isSubscribe = true := by
  cases deed with
  | subscribe l producer o => rfl
  | _ => exact nomatch joins

/-- Handles on the entry that there is now were given out before the next one will be. -/
theorem handed_lt : ∀ {past : List (Note α)} {i : Nat}, i ∈ handed k past → i < givenOut past
  | n :: rest, i, hi => by
    have earlier (hi : i ∈ handed k rest) : i < givenOut (n :: rest) :=
      Nat.lt_of_lt_of_le (handed_lt hi) ((givenOut_cons n rest).symm ▸ Nat.le_add_right ..)
    rw [handed] at hi
    split at hi
    · exact (List.not_mem_nil hi).elim
    · split at hi
      · rename_i joins
        rcases List.mem_append.mp hi with hi | hi
        · exact earlier hi
        · rw [List.mem_singleton.mp hi, givenOut_cons, Deed.isSubscribe_of_joins joins]
          exact Nat.lt_succ_self _
      · exact earlier hi

/-- An event that tells of a dropped entry tells of an eviction. -/
theorem Event.evicted_of_drops {e : Event} {answer : Option (Except String α)} {sign : Sign α}
    (read : e.sign? k answer = some sign) (drops : sign.drops = true) : e = .evicted k := by
  cases sign with
  | evicted => exact Event.sign?_eq_evicted.mp read
  | cleared =>
    cases e with
    | committed l g =>
      simp only [sign?] at read
      split at read
      · split at read <;> simp at read
      · simp at read
    | _ => simp [sign?] at read
  | _ => simp [Sign.drops] at drops

/-- A handle given out before is on the entry that there is now if it was on the entry then, and none
    was dropped since. -/
theorem handed_append {older : List (Note α)} {i : Nat} : ∀ {newer : List (Note α)},
    i ∈ handed k (newer ++ older) → i < givenOut older →
      i ∈ handed k older ∧ ∀ n ∈ newer, n.drops k = false
  | [], hi, _ => ⟨hi, fun _ hn => (List.not_mem_nil hn).elim⟩
  | n :: newer, hi, before => by
    rw [List.cons_append, handed] at hi
    have earlier (kept : ¬ n.drops k = true) (hi : i ∈ handed k (newer ++ older)) :
        i ∈ handed k older ∧ ∀ m ∈ n :: newer, m.drops k = false := by
      obtain ⟨hi, all⟩ := handed_append hi before
      exact ⟨hi, List.forall_mem_cons.mpr ⟨Bool.eq_false_iff.mpr kept, all⟩⟩
    split at hi
    · exact (List.not_mem_nil hi).elim
    · split at hi
      · rcases List.mem_append.mp hi with hi | hi
        · exact earlier ‹_› hi
        · rw [List.mem_singleton.mp hi, givenOut, givenOut, List.countP_append] at before
          omega
      · exact earlier ‹_› hi

namespace Course

variable {w w' : Course α} {n : Note α}

/-- A step books one note at most. -/
theorem Step.books (h : Step w w') : w'.past = w.past ∨ ∃ n, w'.past = n :: w.past := by
  cases h with
  | answer waits calls => exact .inl rfl
  | pass now later => exact .inl rfl
  | look i held => exact .inl rfl
  | forget i gone => exact .inl rfl
  | _ => exact .inr ⟨_, rfl⟩

/-- What is booked stays in the book. -/
theorem Leads.books (h : w.Leads w') : ∃ newer, w'.past = newer ++ w.past := by
  induction h with
  | refl => exact ⟨[], rfl⟩
  | tail before step ih =>
    obtain ⟨newer, past⟩ := ih
    rcases step.books with past' | ⟨n, past'⟩
    · exact ⟨newer, past'.trans past⟩
    · exact ⟨n :: newer, by rw [past', past, List.cons_append]⟩

/-- When all entries are dropped, none is left, and of each something remains. -/
theorem Step.cleared (step : Step w w') (past : w'.past = n :: w.past)
    (said : n.deed.sign?.isSome = true) :
    w'.cache.slots = {} ∧ w'.cache.remains =
      (w.cache.slots.rows.map Prod.snd).map Slot.remains ++ w.cache.remains ∧
      w'.handles = w.handles := by
  cases step with
  | clear alive =>
    refine ⟨slots_clear w.now w.cache, ?_, rfl⟩
    show ((w.cache.dropEntries w.now).report .cleared).remains = _
    rw [dropEntries_eq]
    rfl
  | abandon =>
    refine ⟨slots_abandon w.now w.cache, ?_, rfl⟩
    show (w.cache.dropEntries w.now).remains = _
    rw [dropEntries_eq]
  | answer waits calls => exact (List.cons_ne_self _ _ past.symm).elim
  | pass now later => exact (List.cons_ne_self _ _ past.symm).elim
  | look i held => exact (List.cons_ne_self _ _ past.symm).elim
  | forget i gone => exact (List.cons_ne_self _ _ past.symm).elim
  | _ =>
    obtain rfl := (List.cons.inj past).1
    exact nomatch said

/-- A query whose entry was dropped has none. -/
theorem Step.dropped (step : Step w w') (hw : w.Reachable) (past : w'.past = n :: w.past)
    (drops : n.drops k = true) : w'.cache.slots.find? k = none := by
  obtain ⟨⟨t, sign⟩, listed, drops⟩ := List.any_eq_true.mp drops
  rcases List.mem_append.mp listed with said | said
  · obtain ⟨sign', said, -⟩ := List.mem_map.mp said
    rw [(step.cleared past (Option.isSome_of_mem (Option.mem_toList.mp said))).1]
    rfl
  · obtain ⟨sign', told, same⟩ := List.mem_map.mp said
    obtain ⟨e, listed, read⟩ := List.mem_filterMap.mp told
    obtain rfl : sign' = sign := congrArg Prod.snd same
    obtain rfl := Event.evicted_of_drops read drops
    rcases step.reports hw.booked with ⟨past', -⟩ | ⟨n', past', tells⟩
    · exact (List.cons_ne_self _ _ (past.symm.trans past')).elim
    · obtain rfl := (List.cons.inj (past.symm.trans past')).1
      exact (step.evicted hw past (tells.evicted k listed)).gone

/-- A query that has lost its entry had it dropped. -/
theorem Step.drops_of_gone (step : Step w w') (hw : w.Reachable) (there : w.cache.slots.find? k = some s)
    (gone : w'.cache.slots.find? k = none) : ∃ n, w'.past = n :: w.past ∧ n.drops k = true := by
  have loses : Loses k w w' := ⟨s, there, fun s' there' => nomatch gone.symm.trans there'⟩
  rcases step.loses hw loses with ⟨n, past, all⟩ | ⟨evicted, -⟩
  · refine ⟨n, past, List.any_eq_true.mpr ⟨(n.moment, .cleared), ?_, rfl⟩⟩
    rcases all with all | all <;> simp [Note.signs, all, Deed.sign?]
  · rcases step.books with past | ⟨n, past⟩
    · have signed := evicted.signed
      rw [history, past] at signed
      exact (List.cons_ne_self _ _ signed.symm).elim
    · refine ⟨n, past, List.any_eq_true.mpr ⟨(w.now, .evicted), ?_, rfl⟩⟩
      have signed := evicted.signed
      rw [history, past, List.flatMap_cons] at signed
      rw [show n.signs k = [(w.now, .evicted)] from List.append_cancel_right signed]
      exact List.mem_singleton_self _

/-! ### Who holds what -/

end Course

theorem Handle.ticket_caughtUp (h : Handle) (c : Cache α) : (h.caughtUp c).ticket = h.ticket := by
  unfold caughtUp
  split <;> rfl

theorem heldAt_eq_some {handles : List (Option Handle)} {i : Nat} :
    heldAt handles i = some h ↔ handles[i]? = some (some h) := by
  rw [heldAt, Option.join_eq_some_iff]

/-- A handle that is given out takes the next place. -/
theorem heldAt_append (handles : List (Option Handle)) (h : Handle) (i : Nat) :
    heldAt (handles ++ [some h]) i = if i = handles.length then some h else heldAt handles i := by
  unfold heldAt
  split
  · rename_i last
    rw [last, List.getElem?_concat_length]
    rfl
  · rename_i other
    rw [List.getElem?_append]
    split
    · rfl
    · rw [List.getElem?_eq_none (l := [some h]) (by simp; omega),
        List.getElem?_eq_none (l := handles) (by omega)]

/-- A handle is replaced in its place, or its place is left empty. -/
theorem heldAt_set {handles : List (Option Handle)} {i : Nat} {h : Handle}
    (held : handles[i]? = some (some h)) (h? : Option Handle) (j : Nat) :
    heldAt (handles.set i h?) j = if j = i then h? else heldAt handles j := by
  obtain ⟨inside, -⟩ := List.getElem?_eq_some_iff.mp held
  unfold heldAt
  rw [List.getElem?_set, if_pos inside]
  split
  · rename_i same
    rw [if_pos same.symm]
    rfl
  · rename_i other
    rw [if_neg (Ne.symm other)]

namespace Course

variable {w w' : Course α} {n : Note α}

/-- Nobody else holds a handle with the same number of a subscriber, and the next one will have
    another. -/
structure Distinct (w : Course α) : Prop where
  given : w.handles.length = givenOut w.past
  numbered : ∀ i h, w.holder? i = some h → h.subscriber ≤ w.cache.sequence
  apart : ∀ i j h h', w.holder? i = some h → w.holder? j = some h' →
    h.subscriber = h'.subscriber → i = j

theorem mem_holders : h ∈ w.holders k ↔ ∃ i ∈ handed k w.past, w.holder? i = some h :=
  List.mem_filterMap

theorem Step.sequence (step : Step w w') (hw : w.Reachable) :
    w.cache.sequence ≤ w'.cache.sequence := by
  have leads : Cell.Leads ⟨[]⟩ (w.cell _) (w'.cell _) := step.effect.cell hw.booked
  exact leads.sequence

/-- In this step the handle with the number is given out, or its holder looks at the entry. -/
inductive Marks (i : Nat) : Course α → Course α → Prop
  | given {w : Course α} {c : Cache α} {h : Handle} (k : Key) (producer : Nat) (o : Options)
      (alive : w.cache.abandoned = false)
      (done : w.cache.subscribe w.now k producer o = .ok (c, h)) (next : i = w.handles.length) :
      Marks i w { w.after (.subscribe k producer o) c with handles := w.handles ++ [some h] }
  | looked {w : Course α} {h : Handle} (held : w.handles[i]? = some (some h)) :
      Marks i w { w with handles := w.handles.set i (some (h.caughtUp w.cache)) }

theorem Marks.step {i : Nat} (h : Marks i w w') : Step w w' := by
  cases h with
  | given k producer o alive done next => exact .subscribe k producer o alive done
  | looked held => exact .look i held

/-- Whoever holds a handle held it before as it is, unless this step gave it out or marked it. -/
theorem Step.held {i : Nat} (step : Step w w') (held : w'.holder? i = some h) :
    w.holder? i = some h ∨ Marks i w w' := by
  cases step with
  | @subscribe c h' k producer o alive done =>
    replace held : heldAt (w.handles ++ [some h']) i = some h := held
    rw [heldAt_append] at held
    split at held
    · exact .inr (.given k producer o alive done ‹_›)
    · exact .inl held
  | @unsubscribe h' j alive held' =>
    replace held : heldAt (w.handles.set j none) i = some h := held
    rw [heldAt_set held'] at held
    split at held
    · exact nomatch held
    · exact .inl held
  | @look h' j held' =>
    replace held : heldAt (w.handles.set j (some (h'.caughtUp w.cache))) i = some h := held
    rw [heldAt_set held'] at held
    split at held
    · rename_i here
      subst here
      exact .inr (.looked held')
    · exact .inl held
  | forget j gone =>
    replace held := heldAt_eq_some.mp held
    rw [List.getElem?_set] at held
    split at held
    · split at held <;> exact nomatch held
    · exact .inl (heldAt_eq_some.mpr held)
  | _ => exact .inl held

/-- Whoever holds a handle held it before, or was given it just now. -/
theorem Step.held_before {i : Nat} (step : Step w w') (held : w'.holder? i = some h) :
    (∃ h', w.holder? i = some h' ∧ h.ticket = h'.ticket) ∨
      (i = w.handles.length ∧ w.cache.sequence < h.subscriber ∧
        h.subscriber ≤ w'.cache.sequence ∧
        ∃ n, w'.past = n :: w.past ∧ n.deed.joins h.key = true) := by
  rcases step.held held with held | marks
  · exact .inl ⟨h, held, rfl⟩
  · cases marks with
    | @given c h' k producer o alive done next =>
      obtain ⟨-, own, number, taken⟩ := tickets_subscribe done
      replace held : heldAt (w.handles ++ [some h']) i = some h := held
      rw [heldAt_append, if_pos next] at held
      obtain rfl := Option.some.inj held
      exact .inr ⟨next, number ▸ Nat.lt_succ_self _, taken, _, rfl, by simp [Deed.joins, own]⟩
    | @looked h' held' =>
      replace held : heldAt (w.handles.set i (some (h'.caughtUp w.cache))) i = some h := held
      rw [heldAt_set held', if_pos rfl] at held
      obtain rfl := Option.some.inj held
      exact .inl ⟨h', heldAt_eq_some.mpr held', h'.ticket_caughtUp w.cache⟩

/-- As many handles were given out as the book says. -/
theorem Step.given (step : Step w w') (inv : w.handles.length = givenOut w.past) :
    w'.handles.length = givenOut w'.past := by
  cases step with
  | subscribe k producer o alive done =>
    simp [after, givenOut_cons, Deed.isSubscribe, inv]
  | unsubscribe i alive held => simp [after, givenOut_cons, Deed.isSubscribe, inv]
  | look i held => simp [inv]
  | forget i gone => simp [inv]
  | answer waits calls => exact inv
  | pass now later => exact inv
  | _ => simp [after, givenOut_cons, Deed.isSubscribe, inv]

theorem Step.distinct (step : Step w w') (hw : w.Reachable) (inv : Distinct w) : Distinct w' := by
  refine ⟨step.given inv.given, fun i h held => ?_, fun i j h₁ h₂ held held' same => ?_⟩
  · rcases step.held_before held with ⟨h', held, ticket⟩ | ⟨-, -, taken, -⟩
    · have subscriber : h.subscriber = h'.subscriber := congrArg Ticket.subscriber ticket
      exact subscriber ▸ Nat.le_trans (inv.numbered i h' held) (step.sequence hw)
    · exact taken
  · rcases step.held_before held with ⟨h₁', held, ticket⟩ | ⟨last, new, -⟩ <;>
      rcases step.held_before held' with ⟨h₂', held', ticket'⟩ | ⟨last', new', -⟩
    · have subscriber : h₁.subscriber = h₁'.subscriber := congrArg Ticket.subscriber ticket
      have subscriber' : h₂.subscriber = h₂'.subscriber := congrArg Ticket.subscriber ticket'
      exact inv.apart i j h₁' h₂' held held' (subscriber.symm.trans (same.trans subscriber'))
    · have subscriber : h₁.subscriber = h₁'.subscriber := congrArg Ticket.subscriber ticket
      have older := inv.numbered i h₁' held
      omega
    · have subscriber : h₂.subscriber = h₂'.subscriber := congrArg Ticket.subscriber ticket'
      have older := inv.numbered j h₂' held'
      omega
    · exact last.trans last'.symm

theorem Reachable.distinct (hw : w.Reachable) : Distinct w := by
  obtain ⟨grace, now, h⟩ := hw
  induction h with
  | refl =>
    exact ⟨rfl, fun i h held => (nomatch heldAt_eq_some.mp held),
      fun i j h h' held => (nomatch heldAt_eq_some.mp held)⟩
  | tail before step ih => exact step.distinct ⟨grace, now, before⟩ ih

/-! ### The rows of the cache are those of the holders -/

theorem handed_kept {past : List (Note α)} (kept : n.drops k = false)
    (quiet : n.deed.joins k = false) : handed k (n :: past) = handed k past := by
  rw [handed, kept, quiet]
  rfl

/-- Whoever subscribes finds an entry. -/
theorem Step.there_of_joins (step : Step w w') (past : w'.past = n :: w.past)
    (joins : n.deed.joins k = true) : ∃ s, w'.cache.slots.find? k = some s := by
  cases step with
  | subscribe l producer o alive done =>
    obtain rfl := (List.cons.inj past).1
    obtain rfl : l = k := by simpa [Deed.joins] using joins
    obtain ⟨s, there, -⟩ := find?_subscribe done
    exact ⟨s, there⟩
  | answer waits calls => exact (List.cons_ne_self _ _ past.symm).elim
  | pass now later => exact (List.cons_ne_self _ _ past.symm).elim
  | look i held => exact (List.cons_ne_self _ _ past.symm).elim
  | forget i gone => exact (List.cons_ne_self _ _ past.symm).elim
  | _ =>
    obtain rfl := (List.cons.inj past).1
    exact nomatch joins

/-- For a query without entry no handles were given out. -/
theorem Reachable.handed_vacant (hw : w.Reachable) (vacant : w.cache.slots.find? k = none) :
    handed k w.past = [] := by
  obtain ⟨grace, now, h⟩ := hw
  induction h with
  | refl => rfl
  | @tail w w' before step ih =>
    have hw : w.Reachable := ⟨grace, now, before⟩
    rcases step.books with past | ⟨n, past⟩
    · rw [past]
      refine ih (Option.eq_none_iff_forall_ne_some.mpr fun s there => ?_)
      obtain ⟨n, past', -⟩ := step.drops_of_gone hw there vacant
      exact List.cons_ne_self _ _ (past'.symm.trans past)
    · rw [past]
      cases drops : n.drops k with
      | true => rw [handed, if_pos drops]
      | false =>
        rw [handed_kept drops]
        · refine ih (Option.eq_none_iff_forall_ne_some.mpr fun s there => ?_)
          obtain ⟨n', past', drops'⟩ := step.drops_of_gone hw there vacant
          obtain rfl := (List.cons.inj (past.symm.trans past')).1
          exact Bool.false_ne_true (drops.symm.trans drops')
        · refine Bool.eq_false_iff.mpr fun joins => ?_
          obtain ⟨s, there⟩ := step.there_of_joins past joins
          exact nomatch vacant.symm.trans there

/-- What a step does to the rows of a query and to its holders. -/
inductive Muster (k : Key) (w w' : Course α) : Prop
  | same (rows : w'.cache.tickets k = w.cache.tickets k)
      (holders : (w'.holders k).map Handle.ticket = (w.holders k).map Handle.ticket)
  /-- Somebody subscribes. -/
  | joined {h : Handle} (rows : w'.cache.tickets k = w.cache.tickets k ++ [h.ticket])
      (new : w.cache.sequence < h.subscriber) (holders : w'.holders k = w.holders k ++ [h])
  /-- Somebody gives a handle back. -/
  | left (h : Handle) (rows : w'.cache.tickets k = (w.cache.tickets k).filter (fun t => !t.isOf h))
      (holders : w'.holders k = (w.holders k).filter (fun h' => !h'.ticket.isOf h))
  /-- There is no entry any more, or still none. -/
  | gone (rows : w'.cache.tickets k = []) (holders : w'.holders k = [])

/-- The handles that were given out for the entry are where they were. -/
theorem holders_congr (handed : handed k w'.past = handed k w.past)
    (same : ∀ i ∈ Cache.handed k w.past, w'.holder? i = w.holder? i) :
    w'.holders k = w.holders k := by
  rw [holders, holders, handed]
  exact List.filterMap_congr same

/-- Where a handle was given back there is none. -/
theorem filterMap_set_none (inv : Distinct w) {i : Nat} (held : w.handles[i]? = some (some h))
    (numbers : List Nat) :
    numbers.filterMap (heldAt (w.handles.set i none)) =
      (numbers.filterMap w.holder?).filter (fun h' => !h'.ticket.isOf h) := by
  have held' : w.holder? i = some h := heldAt_eq_some.mpr held
  rw [List.filter_filterMap]
  refine List.filterMap_congr fun j _ => ?_
  rw [heldAt_set held]
  split
  · rename_i here
    rw [here, held']
    simp [Handle.ticket, Ticket.isOf, Option.filter]
  · rename_i other
    change w.holder? j = _
    cases there : w.holder? j with
    | none => rfl
    | some h' =>
      have apart : h'.subscriber ≠ h.subscriber := fun same =>
        other (inv.apart j i h' h there held' same)
      simp [Handle.ticket, Ticket.isOf, Option.filter, apart]

theorem Deed.joins_of_unconcerned {deed : Deed α} (quiet : deed.concerns k = false) :
    deed.joins k = false := by
  cases deed with
  | subscribe l producer o => exact quiet
  | _ => rfl

/-- Most deeds leave both the subscribers and the handles alone. -/
theorem Step.muster_spared (step : Step w w') {n : Note α} (past : w'.past = n :: w.past)
    (kept : n.drops k = false) (quiet : n.deed.concerns k = false) (same : w'.handles = w.handles) :
    Muster k w w' := by
  have spares : Spares k w.cache w'.cache := step.spares fun n' past' =>
    (List.cons.inj (past.symm.trans past')).1 ▸ quiet
  refine .same spares.tickets (congrArg _ (holders_congr ?_ fun i _ => ?_))
  · rw [past, handed_kept kept (Deed.joins_of_unconcerned quiet)]
  · rw [holder?, same]
    rfl

/-- Whoever subscribes is added at the end, or holds a handle on another query. -/
theorem Distinct.muster_subscribe (distinct : w.Distinct) {c : Cache α} {l : Key} {producer : Nat}
    {o : Options} (done : w.cache.subscribe w.now l producer o = .ok (c, h))
    (kept : Note.drops k (⟨w.now, .subscribe l producer o, c.journal⟩ : Note α) = false) :
    Muster k w { w.after (.subscribe l producer o) c with handles := w.handles ++ [some h] } := by
  have older (i : Nat) (hi : i ∈ handed k w.past) :
      heldAt (w.handles ++ [some h]) i = w.holder? i := by
    rw [heldAt_append, if_neg (distinct.given ▸ Nat.ne_of_lt (handed_lt hi))]
    rfl
  by_cases hl : l = k
  · subst hl
    obtain ⟨rows, -, number, -⟩ := tickets_subscribe done
    refine .joined rows (number ▸ Nat.lt_succ_self _) ?_
    have joins : Deed.joins l (.subscribe l producer o : Deed α) = true := by simp [Deed.joins]
    show (handed l (_ :: w.past)).filterMap (heldAt (w.handles ++ [some h])) = _
    rw [handed, kept, if_neg Bool.false_ne_true, if_pos joins, List.filterMap_append,
      List.filterMap_congr older, ← distinct.given]
    simp [heldAt_append, holders]
  · refine .same (spares_subscribe_other (Ne.symm hl) done).booked.tickets
      (congrArg _ (holders_congr (handed_kept kept ?_) older))
    simpa [Deed.joins] using hl

/-- Looking at an entry changes no ticket. -/
theorem tickets_look {i : Nat} (held : w.handles[i]? = some (some h)) (c : Cache α) :
    (holders { w with handles := w.handles.set i (some (h.caughtUp c)) } k).map Handle.ticket =
      (w.holders k).map Handle.ticket := by
  show ((handed k w.past).filterMap (heldAt (w.handles.set i _))).map Handle.ticket = _
  rw [holders, List.map_filterMap, List.map_filterMap]
  refine List.filterMap_congr fun j _ => ?_
  rw [heldAt_set held]
  split
  · rename_i here
    rw [here, show w.holder? i = some h from heldAt_eq_some.mpr held, Option.map_some,
      h.ticket_caughtUp c, Option.map_some]
  · rfl

theorem Step.muster (step : Step w w') (hw : w.Reachable) (k : Key) : Muster k w w' := by
  have hw' : w'.Reachable := hw.leads (.single step)
  cases there' : w'.cache.slots.find? k with
  | none =>
    refine .gone (tickets_vacant there') ?_
    rw [holders, hw'.handed_vacant there']
    rfl
  | some s' =>
    have alive := hw'.alive there'
    have kept {n : Note α} (past : w'.past = n :: w.past) : n.drops k = false :=
      Bool.eq_false_iff.mpr fun drops => by simp [step.dropped hw past drops] at there'
    have spared {n : Note α} (past : w'.past = n :: w.past) (quiet : n.deed.concerns k = false)
        (same : w'.handles = w.handles) : Muster k w w' :=
      step.muster_spared past (kept past) quiet same
    cases step with
    | subscribe l producer o alive done => exact hw.distinct.muster_subscribe done (kept rfl)
    | @unsubscribe h i alive held =>
      refine .left h ((tickets_congr rfl).trans (tickets_unsubscribe w.now h w.cache k)) ?_
      show (handed k (_ :: w.past)).filterMap (heldAt (w.handles.set i none)) = _
      rw [handed_kept (kept rfl) rfl, filterMap_set_none hw.distinct held]
      rfl
    | refetch l alive done => exact spared rfl rfl rfl
    | invalidate l alive => exact spared rfl rfl rfl
    | straggle l g answer started given_up unsettled => exact spared rfl rfl rfl
    | clear alive =>
      rw [after, slots_clear] at there'
      simp [Table.find?] at there'
    | abandon =>
      rw [after, slots_abandon] at there'
      simp [Table.find?] at there'
    | @run σ supplier state j listed due =>
      by_cases quiet : (Deed.run j (supplier.answer? j state)).concerns k = false
      · exact spared rfl quiet rfl
      · cases duty : j.duty with
        | collect token =>
          obtain rfl : j.key = k := by simpa [Deed.concerns, duty] using quiet
          obtain ⟨s, pends⟩ := hw.pends_of_collect listed duty
          simp [(pends.evicted hw supplier state due).gone] at there'
        | _ => exact (quiet (by simp [Deed.concerns, duty])).elim
    | answer waits calls => exact .same rfl rfl
    | pass now later => exact .same rfl rfl
    | look i held => exact .same rfl (tickets_look held w.cache)
    | forget i gone => simp [gone] at alive

/-- In every reachable course the rows of a query are the tickets of its holders. -/
theorem Reachable.rows (hw : w.Reachable) (k : Key) :
    w.cache.tickets k = (w.holders k).map Handle.ticket := by
  obtain ⟨grace, now, h⟩ := hw
  induction h with
  | refl => rfl
  | @tail w w' before step ih =>
    cases step.muster ⟨grace, now, before⟩ k with
    | same rows holders => rw [rows, holders, ih]
    | joined rows new holders => rw [rows, holders, ih, List.map_append]; rfl
    | left h rows holders =>
      rw [rows, holders, ih, List.filter_map]
      rfl
    | gone rows holders => rw [rows, holders]; rfl

end Course

end TaskWatch.Cache
