import TaskWatch.Cache.Event
import TaskWatch.Time.Instant

/-! The history of a query.

    A history lists the signs of what became of one query, the latest first. What its entry must look
    like can be read off it: the fetch in flight, the last success, whether the data was invalidated
    since. In an orderly history later fetches have higher generations and only the fetch in flight
    settles. Then fetches settle in the order of their generations, and of two fetches the one that
    was started first never settles last. -/

namespace TaskWatch.Cache

variable {α : Type}

/-- What can become of a query and its entry. -/
inductive Sign (α : Type) where
  | started (generation : Nat)
  | succeeded (generation : Nat) (data : α)
  | failed (generation : Nat) (message : String)
  | invalidated
  | evicted
  /-- The entry was dropped together with all others. -/
  | cleared
  deriving DecidableEq, Repr

deriving instance DecidableEq for Time.Instant

namespace Sign

/-- The generation of a fetch that was started. -/
def started? : Sign α → Option Nat
  | .started g => some g
  | _ => none

/-- The generation of a fetch that settled. -/
def settled? : Sign α → Option Nat
  | .succeeded g _ => some g
  | .failed g _ => some g
  | _ => none

/-- The generation of a fetch that succeeded. -/
def succeeded? : Sign α → Option Nat
  | .succeeded g _ => some g
  | _ => none

/-- The entry was dropped. -/
def drops : Sign α → Bool
  | .evicted => true
  | .cleared => true
  | _ => false

end Sign

/-- What became of a query and when, the latest first. -/
abbrev History (α : Type) := List (Time.Instant × Sign α)

namespace History

/-- The generations of the fetches that were started, the latest first. -/
def started (h : History α) : List Nat := h.filterMap (fun x => x.2.started?)

/-- The generations of the fetches that settled, the latest first. -/
def settled (h : History α) : List Nat := h.filterMap (fun x => x.2.settled?)

/-- The generations of the fetches that succeeded, the latest first. -/
def succeeded (h : History α) : List Nat := h.filterMap (fun x => x.2.succeeded?)

/-- The generation of the fetch in flight. -/
def flight? : History α → Option Nat
  | [] => none
  | (_, .started g) :: _ => some g
  | (_, .invalidated) :: rest => flight? rest
  | _ :: _ => none

/-- The last success of the entry that there is now: when it was and what it gave. -/
def success? : History α → Option (Time.Instant × α)
  | [] => none
  | (t, .succeeded _ a) :: _ => some (t, a)
  | (_, .evicted) :: _ => none
  | (_, .cleared) :: _ => none
  | _ :: rest => success? rest

/-- The entry that there is now was invalidated after its last success. -/
def isInvalidated : History α → Bool
  | [] => false
  | (_, .invalidated) :: _ => true
  | (_, .started _) :: rest => isInvalidated rest
  | (_, .failed _ _) :: rest => isInvalidated rest
  | _ :: _ => false

/-- The generations of the fetches that were in flight when their entry was evicted. -/
def evictedFlights : History α → List Nat
  | [] => []
  | (_, .evicted) :: rest => (flight? rest).toList ++ evictedFlights rest
  | _ :: rest => evictedFlights rest

/-- What became of the entry that there is now, since it was made. -/
def life : History α → History α
  | [] => []
  | (_, .evicted) :: _ => []
  | (_, .cleared) :: _ => []
  | x :: rest => x :: life rest

/-- What became of the entries that were dropped, each in its time, the latest first. -/
def pastLives : History α → List (History α)
  | [] => []
  | (_, .evicted) :: rest => life rest :: pastLives rest
  | (_, .cleared) :: rest => life rest :: pastLives rest
  | _ :: rest => pastLives rest

/-- What became of every entry that the query has had. -/
def lives (h : History α) : List (History α) := life h :: pastLives h

/-- Later fetches have higher generations, and only the fetch in flight settles. -/
def Orderly : History α → Prop
  | [] => True
  | (_, .started g) :: rest => (∀ x ∈ started rest, x < g) ∧ Orderly rest
  | (_, .succeeded g _) :: rest => flight? rest = some g ∧ Orderly rest
  | (_, .failed g _) :: rest => flight? rest = some g ∧ Orderly rest
  | _ :: rest => Orderly rest

/-- The last success of the entry lies in its own time. -/
theorem success?_life : ∀ h : History α, success? (life h) = success? h
  | [] => rfl
  | (_, .started _) :: rest => success?_life rest
  | (_, .succeeded _ _) :: _ => rfl
  | (_, .failed _ _) :: rest => success?_life rest
  | (_, .invalidated) :: rest => success?_life rest
  | (_, .evicted) :: _ => rfl
  | (_, .cleared) :: _ => rfl

/-- The fetch in flight is the one started last. -/
theorem started_of_flight : ∀ {h : History α} {g : Nat}, Orderly h → flight? h = some g →
    g ∈ started h ∧ ∀ x ∈ started h, x ≤ g
  | (_, .started g') :: rest, g, ho, hf => by
    obtain rfl : g' = g := Option.some.inj hf
    refine ⟨List.mem_cons_self .., fun x hx => ?_⟩
    rcases List.mem_cons.mp hx with rfl | hx
    · exact Nat.le_refl _
    · exact Nat.le_of_lt (ho.1 x hx)
  | (_, .invalidated) :: rest, g, ho, hf => started_of_flight (h := rest) ho hf

/-- Every fetch that settled was started. -/
theorem settled_subset_started : ∀ {h : History α}, Orderly h → ∀ x ∈ settled h, x ∈ started h
  | (_, .started g) :: rest, ho, x, hx =>
    List.mem_cons_of_mem _ (settled_subset_started (h := rest) ho.2 x hx)
  | (_, .succeeded g a) :: rest, ho, x, hx => by
    rcases List.mem_cons.mp hx with rfl | hx
    · exact (started_of_flight ho.2 ho.1).1
    · exact settled_subset_started (h := rest) ho.2 x hx
  | (_, .failed g m) :: rest, ho, x, hx => by
    rcases List.mem_cons.mp hx with rfl | hx
    · exact (started_of_flight ho.2 ho.1).1
    · exact settled_subset_started (h := rest) ho.2 x hx
  | (_, .invalidated) :: rest, ho, x, hx => settled_subset_started (h := rest) ho x hx
  | (_, .evicted) :: rest, ho, x, hx => settled_subset_started (h := rest) ho x hx
  | (_, .cleared) :: rest, ho, x, hx => settled_subset_started (h := rest) ho x hx

/-- Whatever settled was started before the fetch in flight. -/
theorem settled_lt_flight : ∀ {h : History α} {g : Nat}, Orderly h → flight? h = some g →
    ∀ x ∈ settled h, x < g
  | (_, .started g') :: rest, g, ho, hf, x, hx => by
    obtain rfl : g' = g := Option.some.inj hf
    exact ho.1 x (settled_subset_started ho.2 x hx)
  | (_, .invalidated) :: rest, g, ho, hf, x, hx => settled_lt_flight (h := rest) ho hf x hx

/-- Every fetch that was in flight when its entry was evicted was started. -/
theorem evictedFlights_subset_started : ∀ {h : History α}, Orderly h →
    ∀ x ∈ evictedFlights h, x ∈ started h
  | (_, .started g) :: rest, ho, x, hx =>
    List.mem_cons_of_mem _ (evictedFlights_subset_started (h := rest) ho.2 x hx)
  | (_, .succeeded g a) :: rest, ho, x, hx => evictedFlights_subset_started (h := rest) ho.2 x hx
  | (_, .failed g m) :: rest, ho, x, hx => evictedFlights_subset_started (h := rest) ho.2 x hx
  | (_, .invalidated) :: rest, ho, x, hx => evictedFlights_subset_started (h := rest) ho x hx
  | (_, .evicted) :: rest, ho, x, hx => by
    rcases List.mem_append.mp hx with hx | hx
    · exact (started_of_flight (h := rest) ho (Option.mem_toList.mp hx)).1
    · exact evictedFlights_subset_started (h := rest) ho x hx
  | (_, .cleared) :: rest, ho, x, hx => evictedFlights_subset_started (h := rest) ho x hx

/-- Whatever was in flight when its entry was evicted was started before the fetch in flight. -/
theorem evictedFlights_lt_flight : ∀ {h : History α} {g : Nat}, Orderly h → flight? h = some g →
    ∀ x ∈ evictedFlights h, x < g
  | (_, .started g') :: rest, g, ho, hf, x, hx => by
    obtain rfl : g' = g := Option.some.inj hf
    exact ho.1 x (evictedFlights_subset_started ho.2 x hx)
  | (_, .invalidated) :: rest, g, ho, hf, x, hx =>
    evictedFlights_lt_flight (h := rest) ho hf x hx

/-- Fetches are started in the order of their generations. -/
theorem started_descending : ∀ {h : History α}, Orderly h → (started h).Pairwise (· > ·)
  | [], _ => .nil
  | (_, .started _) :: _, ho => .cons ho.1 (started_descending ho.2)
  | (_, .succeeded _ _) :: rest, ho => started_descending (h := rest) ho.2
  | (_, .failed _ _) :: rest, ho => started_descending (h := rest) ho.2
  | (_, .invalidated) :: rest, ho => started_descending (h := rest) ho
  | (_, .evicted) :: rest, ho => started_descending (h := rest) ho
  | (_, .cleared) :: rest, ho => started_descending (h := rest) ho

/-- Fetches settle in the order of their generations, and each settles once at most. -/
theorem settled_descending : ∀ {h : History α}, Orderly h → (settled h).Pairwise (· > ·)
  | [], _ => .nil
  | (_, .started _) :: rest, ho => settled_descending (h := rest) ho.2
  | (_, .succeeded _ _) :: _, ho =>
    .cons (settled_lt_flight ho.2 ho.1) (settled_descending ho.2)
  | (_, .failed _ _) :: _, ho =>
    .cons (settled_lt_flight ho.2 ho.1) (settled_descending ho.2)
  | (_, .invalidated) :: rest, ho => settled_descending (h := rest) ho
  | (_, .evicted) :: rest, ho => settled_descending (h := rest) ho
  | (_, .cleared) :: rest, ho => settled_descending (h := rest) ho

/-- What is in flight was started since, or was in flight before. -/
theorem flight?_append : ∀ {h before : History α} {g : Nat}, flight? (h ++ before) = some g →
    g ∈ started h ∨ flight? before = some g
  | [], _, _, hf => .inr hf
  | (_, .started g') :: _, _, g, hf => by
    obtain rfl : g' = g := Option.some.inj hf
    exact .inl (List.mem_cons_self ..)
  | (_, .invalidated) :: rest, _, _, hf => flight?_append (h := rest) hf

/-- What has succeeded since and was started before was in flight before. -/
theorem flight_of_succeeded : ∀ {h before : History α} {g : Nat}, Orderly (h ++ before) →
    g ∈ succeeded h → g ∈ started before → flight? before = some g
  | (_, .started _) :: rest, _, _, ho, hs, hg => flight_of_succeeded (h := rest) ho.2 hs hg
  | (_, .succeeded g' _) :: rest, before, g, ho, hs, hg => by
    obtain ⟨hf, ho⟩ : flight? (rest ++ before) = some g' ∧ Orderly (rest ++ before) := ho
    rcases List.mem_cons.mp hs with rfl | hs
    · refine (flight?_append hf).resolve_left fun again => ?_
      have order := started_descending ho
      rw [started, List.filterMap_append] at order
      exact Nat.lt_irrefl g ((List.pairwise_append.mp order).2.2 g again g hg)
    · exact flight_of_succeeded ho hs hg
  | (_, .failed _ _) :: rest, _, _, ho, hs, hg => flight_of_succeeded (h := rest) ho.2 hs hg
  | (_, .invalidated) :: rest, _, _, ho, hs, hg => flight_of_succeeded (h := rest) ho hs hg
  | (_, .evicted) :: rest, _, _, ho, hs, hg => flight_of_succeeded (h := rest) ho hs hg
  | (_, .cleared) :: rest, _, _, ho, hs, hg => flight_of_succeeded (h := rest) ho hs hg

/-- An entry stays invalidated until it is dropped or a fetch succeeds. -/
theorem isInvalidated_append {t : Time.Instant} {before : History α} : ∀ {h : History α},
    (∀ x ∈ h, x.2.drops = false) → succeeded h = [] →
      isInvalidated (h ++ (t, .invalidated) :: before) = true
  | [], _, _ => rfl
  | (_, .started _) :: rest, same, hs =>
    isInvalidated_append (h := rest) (fun x hx => same x (List.mem_cons_of_mem _ hx)) hs
  | (_, .failed _ _) :: rest, same, hs =>
    isInvalidated_append (h := rest) (fun x hx => same x (List.mem_cons_of_mem _ hx)) hs
  | (_, .invalidated) :: _, _, _ => rfl
  | (_, .evicted) :: _, same, _ => nomatch same _ (List.mem_cons_self ..)
  | (_, .cleared) :: _, same, _ => nomatch same _ (List.mem_cons_self ..)

end History

/-! ### Reading a history off what a cache reports -/

/-- What an event says about a query, given the answer that was taken. -/
def Event.sign? (k : Key) (answer : Option (Except String α)) : Event → Option (Sign α)
  | .started l g => if l = k then some (.started g) else none
  | .committed l g =>
    match answer with
    | some (.ok a) => if l = k then some (.succeeded g a) else none
    | _ => none
  | .failed l g message => if l = k then some (.failed g message) else none
  | .invalidated l _ => if l = k then some .invalidated else none
  | .evicted l => if l = k then some .evicted else none
  | _ => none

/-- The signs of a query that events of one moment give, the latest first. -/
def signs (now : Time.Instant) (k : Key) (answer : Option (Except String α)) (events : List Event) :
    History α :=
  (events.filterMap (Event.sign? k answer)).map (fun s => (now, s))

end TaskWatch.Cache
