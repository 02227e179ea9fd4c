import TaskWatch.Proofs.Cache.Timers
import TaskWatch.Proofs.Cache.Work

/-! Which jobs hold calls of producers.

    A job that waits for the answer to a call holds it, and so does the job that is to let go of it once the
    fetch was given up. No user of a cache ends a call: whatever they do, the calls that jobs hold stay the
    same. For a job that lets go of a call is not given up in its turn, as no slot names it any more. Calls
    begin and end only when a job is run. -/

namespace TaskWatch.Cache

variable {α : Type} {now : Time.Instant} {k : Key} {c c' c'' : Cache α} {s : Slot α} {i n p : Nat}
  {j : Job} {stray : Key → Nat → Prop}

/-- The call of the producer with this number that the duty is about. -/
def Duty.holds? (i : Nat) : Duty → Option Nat
  | .reply _ producer number | .release producer number =>
    if producer = i then some number else none
  | _ => none

/-- Of what fills a post, only the duty to take an answer is about a call. -/
theorem Duty.holds?_of_post {duty : Duty} {q : Post} (post : duty.post? = some q)
    (plain : ∀ g producer call, duty ≠ .reply g producer call) : duty.holds? i = none := by
  cases duty with
  | reply g producer call => exact (plain g producer call rfl).elim
  | release producer call => exact nomatch post
  | _ => rfl

namespace Agenda

variable {agenda : Agenda} {begun : Nat}

/-- The calls of the producer that are held by jobs. -/
def held (i : Nat) (agenda : Agenda) : List Nat := agenda.filterMap (fun j => j.duty.holds? i)

theorem held_append (before after : Agenda) :
    held i (before ++ after) = held i before ++ held i after :=
  List.filterMap_append

theorem held_singleton : held i [j] = (j.duty.holds? i).toList := by
  rw [held, List.filterMap_cons]
  cases j.duty.holds? i <;> rfl

/-- A job that stands somewhere holds what it would hold at the end. -/
theorem held_middle (before after : Agenda) :
    (held i (before ++ j :: after)).Perm (held i (before ++ after) ++ (j.duty.holds? i).toList) := by
  have moved : (before ++ j :: after).Perm (before ++ after ++ [j]) :=
    List.perm_middle.trans (List.perm_append_singleton j _).symm
  rw [← held_singleton, ← held_append]
  exact moved.filterMap _

/-- With a job that is taken off goes the call that it holds. -/
theorem held_remove (inv : agenda.Numbered begun) (listed : j ∈ agenda) :
    (agenda.held i).Perm ((agenda.remove j.number).held i ++ (j.duty.holds? i).toList) := by
  obtain ⟨before, after, whole, removed, -⟩ := inv.split listed
  rw [removed, whole]
  exact held_middle before after

/-- A job that is changed holds what it holds then. -/
theorem held_change (inv : agenda.Numbered begun) (listed : j ∈ agenda) (f : Job → Job) :
    ((agenda.change j.number f).held i).Perm
      ((agenda.remove j.number).held i ++ ((f j).duty.holds? i).toList) := by
  obtain ⟨before, after, -, removed, changed⟩ := inv.split listed
  rw [removed, changed]
  exact held_middle before after

/-- A job that holds no call is taken off. -/
theorem held_remove_of_none (inv : agenda.Numbered begun) (listed : j ∈ agenda)
    (none : j.duty.holds? i = none) : ((agenda.remove j.number).held i).Perm (agenda.held i) := by
  have removed := held_remove (i := i) inv listed
  rw [none, Option.toList_none, List.append_nil] at removed
  exact removed.symm

theorem held_answered (now : Time.Instant) (waits : Job → Bool) (agenda : Agenda) :
    ((Agenda.answered now waits agenda).held i).Perm (agenda.held i) := by
  have same : held i (Agenda.answered now waits agenda) =
      held i (agenda.filter (fun j => !waits j) ++ agenda.filter waits) := by
    rw [Agenda.answered, held_append, held_append, held, held, List.filterMap_map]
    rfl
  have order := List.filter_append_perm (fun j => !waits j) agenda
  simp only [Bool.not_not] at order
  exact same ▸ order.filterMap _

end Agenda

open Agenda

/-! ### Jobs that are begun and given up -/

/-- If a job with a post is given up, the call that it holds is let go of later. -/
theorem held_abort {q : Post} (inv : c.agenda.Numbered c.begun) (has : c.agenda.Has k n q) :
    ((c.abort now n).agenda.held i).Perm (c.agenda.held i) := by
  obtain ⟨j, listed, -, rfl, post⟩ := has
  unfold abort
  cases found : c.agenda.find? j.number with
  | none => exact .refl _
  | some j' =>
    obtain rfl : j' = j := inv.job (List.mem_of_find?_eq_some found) listed
      (by simpa using List.find?_some found)
    dsimp only
    split
    -- A job that waits for an answer is not just taken off: it is turned into one that lets go.
    · rename_i g producer call duty
      have removed := held_remove (i := i) inv listed
      rw [held_append, held_singleton]
      rw [duty] at removed
      exact removed.symm
    · rename_i plain
      exact held_remove_of_none inv listed (Duty.holds?_of_post post plain)

theorem held_abort? {m : Option Nat} (inv : c.agenda.Numbered c.begun)
    (has : ∀ n, m = some n → ∃ q, c.agenda.Has k n q) :
    ((c.abort? now m).agenda.held i).Perm (c.agenda.held i) := by
  cases m with
  | none => exact .refl _
  | some n =>
    obtain ⟨q, has⟩ := has n rfl
    exact held_abort inv has

theorem held_spawn {duty : Duty} (now : Time.Instant) (k : Key) (due : Nat) (c : Cache α)
    (none : duty.holds? i = none) : (c.spawn now k duty due).agenda.held i = c.agenda.held i := by
  rw [spawn, held_append, held_singleton, none]
  exact List.append_nil _

/-! ### What users do -/

/-- Slots have the jobs that they name, whatever strayed. -/
abbrev Manned (c : Cache α) : Prop := c.Staffed (fun _ _ => True)

/-- If slots have the jobs that they name, they have them still, and no call is begun or ends. -/
def Keeps (i : Nat) (c c' : Cache α) : Prop :=
  c.Manned → c'.Manned ∧ (c'.agenda.held i).Perm (c.agenda.held i)

namespace Keeps

theorem refl (i : Nat) (c : Cache α) : Keeps i c c := fun inv => ⟨inv, .refl _⟩

theorem trans (h : Keeps i c c') (h' : Keeps i c' c'') : Keeps i c c'' := by
  intro inv
  obtain ⟨inv', held⟩ := h inv
  obtain ⟨inv'', held'⟩ := h' inv'
  exact ⟨inv'', held'.trans held⟩

/-- The agenda stays as it is. -/
theorem of_agenda (manned : c.Manned → c'.Manned) (agenda : c'.agenda = c.agenda) : Keeps i c c' :=
  fun inv => ⟨manned inv, agenda ▸ .refl _⟩

/-- Only something is reported or counted. -/
theorem of_same (slots : c'.slots = c.slots) (agenda : c'.agenda = c.agenda)
    (begun : c'.begun = c.begun) (abandoned : c'.abandoned = c.abandoned) : Keeps i c c' :=
  of_agenda (fun inv => inv.shuffle (fun _ => by rw [slots]) (by rw [agenda, begun]; exact inv.numbered)
    (fun _ _ _ => by rw [agenda]) abandoned) agenda

end Keeps

theorem keeps_startFetch {supersede : Bool} : Keeps i c (c.startFetch now k supersede).1 := by
  refine fun inv => ⟨staffed_startFetch inv, ?_⟩
  have launched (c : Cache α) (s : Slot α) : (c.launch now k s).agenda.held i = c.agenda.held i :=
    held_spawn now k now.elapsed (c.numbered.count _) rfl
  cases hs : c.slots.find? k with
  | none => rw [startFetch_vacant hs]
  | some s =>
    cases hf : s.inFlight with
    | none => rw [startFetch_idle hs hf, launched]
    | some f =>
      cases supersede with
      | false => rw [startFetch_joined hs hf]
      | true =>
        rw [startFetch_superseding hs hf, launched]
        exact held_abort inv.numbered (inv.named k s _ _ hs (.flight hf))

theorem keeps_reschedule : Keeps i c (c.reschedule now k) := by
  refine fun inv => ⟨staffed_reschedule inv, ?_⟩
  cases hs : c.slots.find? k with
  | none => rw [reschedule_vacant hs]
  | some s =>
    have stopped : ((c.stopTimer now k s.timer).agenda.held i).Perm (c.agenda.held i) := by
      rw [agenda_stopTimer]
      refine held_abort? (k := k) inv.numbered fun n same => ?_
      obtain ⟨period, names⟩ := Slot.names_timer same
      exact ⟨_, inv.named k s n _ hs names⟩
    rw [reschedule_eq hs]
    split
    · exact .refl _
    · cases s.period? with
      | none => exact stopped
      | some period =>
        have none : (Duty.poll period).holds? i = none := rfl
        exact held_spawn now k (now.elapsed + period) (c.stopTimer now k s.timer) none ▸ stopped

theorem keeps_scheduledFetch : Keeps i c (c.scheduledFetch now k) := by
  have fetched : Keeps i c (c.startFetch now k false).1 := keeps_startFetch
  unfold scheduledFetch
  dsimp only
  split
  · exact fetched
  · exact fetched.trans (.of_same rfl rfl rfl rfl)

theorem keeps_tick {period : Nat} (listed : j ∈ c.agenda) (duty : j.duty = .poll period) :
    Keeps i c (c.tick now j period) := by
  have again (n : Nat) (c : Cache α) : Keeps i c (repeated (scheduledFetch now j.key) n c) := by
    induction n generalizing c with
    | zero => exact .refl i c
    | succ n ih => exact keeps_scheduledFetch.trans (ih _)
  have moved (due : Nat) : Keeps i c { c with
      agenda := c.agenda.remove j.number ++ [{ j with due := some due, turn := now.turn }] } := by
    refine fun inv => ⟨staffed_move inv listed duty, ?_⟩
    rw [held_append, held_singleton]
    exact (held_remove inv.numbered listed).symm
  exact (moved _).trans (again _ _)

theorem keeps_evict (there : c.slots.find? k = some s) : Keeps i c (c.evict k) :=
  .of_agenda (fun inv => staffed_evict inv there (fun _ _ => trivial) fun _ _ _ => trivial) rfl

theorem keeps_joined {o : Options} (there : c.slots.find? k = some s) :
    Keeps i c (c.joined now k s p o) := by
  refine fun inv => ⟨staffed_join inv there p _, ?_⟩
  refine held_abort? (c := c.numbered) (k := k) inv.numbered fun n same => ?_
  obtain ⟨token, names⟩ := Slot.names_eviction same
  exact ⟨_, inv.named k s n _ there names⟩

theorem keeps_served {o : Options} : Keeps i (c.joined now k s p o) (c.served now k s p o) := by
  have counted (f : Stats → Stats) : Keeps i (c.joined now k s p o) ((c.joined now k s p o).count f) :=
    .of_same rfl rfl rfl rfl
  unfold served
  dsimp only
  split
  · exact .of_same rfl rfl rfl rfl
  · split
    · exact counted _
    · split <;> exact (counted _).trans keeps_startFetch

theorem keeps_found {o : Options} (alive : c.abandoned = false) (vacant : c.slots.find? k = none) :
    Keeps i c (c.numbered.found k p o c.nextNumber) := by
  refine .of_agenda (fun inv => ?_) rfl
  refine inv.made alive (find?_setSlot _ _ · _) vacant (fun n q names => ?_) rfl rfl rfl
  cases names with
  | flight flying => exact nomatch flying
  | timer runs => exact nomatch runs
  | eviction pends => exact nomatch pends

theorem keeps_subscribe {o : Options} {h : Handle} (alive : c.abandoned = false)
    (done : c.subscribe now k p o = .ok (c', h)) : Keeps i c c' := by
  have valid := valid_of_subscribe done
  cases hs : c.slots.find? k with
  | none =>
    rw [subscribe_vacant valid hs, Except.ok.injEq, Prod.mk.injEq] at done
    obtain ⟨rfl, -⟩ := done
    exact ((keeps_found alive hs).trans keeps_startFetch).trans keeps_reschedule
  | some s =>
    rw [subscribe_there valid hs, Except.ok.injEq, Prod.mk.injEq] at done
    obtain ⟨rfl, -⟩ := done
    exact ((keeps_joined hs).trans keeps_served).trans keeps_reschedule

/-- The last subscriber of a query has left. -/
theorem keeps_abandonEntry {token : Nat} (there : c.slots.find? k = some s)
    (lonely : s.subscribers = []) : Keeps i c (c.abandonEntry now k token) := by
  unfold abandonEntry
  split
  · exact keeps_evict there
  · simp only [there]
    refine Keeps.trans (fun inv => ⟨staffed_linger inv there lonely, ?_⟩) (.of_same rfl rfl rfl rfl)
    have none : (Duty.collect token).holds? i = none := rfl
    exact held_spawn now k (now.elapsed + c.grace) c none ▸ .refl _

theorem keeps_unsubscribe {h : Handle} : Keeps i c (c.unsubscribe now h) := by
  rcases unsubscribe_cases c h with ⟨s, there, member⟩ | stranger
  · have fewer : Keeps i c (c.numbered.setSlot h.key { s with
        subscribers := s.staying h.subscriber }) := by
      refine .of_agenda (fun inv => ?_) rfl
      have numbered : c.numbered.Manned :=
        inv.shuffle (fun _ => rfl) inv.numbered (fun _ _ _ => .rfl) rfl
      refine staffed_setSlot numbered there (fun n q => Slot.names_congr rfl rfl rfl) fun e pends => ?_
      exact List.sublist_nil.mp (inv.lonely _ s e there pends ▸ List.filter_sublist)
    have left : Keeps i c (c.left now h s) := fewer.trans keeps_reschedule
    rw [unsubscribe_member there member]
    split
    · rename_i nobody
      obtain ⟨timer, found⟩ := find?_reschedule now (find?_setSlot_self c.numbered h.key
        { s with subscribers := s.staying h.subscriber })
      have deserted := (found h.key).trans (if_pos rfl)
      exact left.trans (keeps_abandonEntry deserted (List.isEmpty_iff.mp nobody))
    · exact left
  · rw [unsubscribe_stranger stranger]
    exact .of_same rfl rfl rfl rfl

theorem keeps_refetch (done : c.refetch now k = .ok c') : Keeps i c c' := by
  unfold refetch at done
  split at done
  · obtain rfl := Except.ok.inj done
    exact keeps_startFetch
  · exact nomatch done

theorem keeps_invalidate : Keeps i c (c.invalidate now k).1 := by
  unfold invalidate
  cases hs : c.slots.find? k with
  | none => exact .refl i c
  | some s =>
    have marked : Keeps i c ((c.setSlot k { s with invalidated := true }).report
        (.invalidated k (!s.subscribers.isEmpty))) := by
      have set : Keeps i c (c.setSlot k { s with invalidated := true }) :=
        .of_agenda (fun inv => staffed_setSlot inv hs (fun n q => Slot.names_congr rfl rfl rfl)
          fun e => inv.lonely k s e hs) rfl
      exact set.trans (.of_same rfl rfl rfl rfl)
    dsimp only
    split
    · exact marked.trans keeps_startFetch
    · exact marked

/-! ### Dropping all entries -/

/-- The jobs that the slot names. -/
def Slot.jobs (s : Slot α) : List Nat :=
  (s.inFlight.map Flight.job).toList ++ (s.timer.map Timer.job).toList ++
    (s.eviction.map Eviction.job).toList

theorem Slot.mem_jobs : n ∈ s.jobs ↔ ∃ q, s.Names n q := by
  simp only [jobs, List.mem_append, Option.mem_toList]
  constructor
  · rintro ((flight | timer) | eviction)
    · obtain ⟨g, names⟩ := Slot.names_flight flight
      exact ⟨_, names⟩
    · obtain ⟨period, names⟩ := Slot.names_timer timer
      exact ⟨_, names⟩
    · obtain ⟨token, names⟩ := Slot.names_eviction eviction
      exact ⟨_, names⟩
  · rintro ⟨q, names⟩
    cases names with
    | flight flying => exact .inl (.inl (by rw [flying]; rfl))
    | timer runs => exact .inl (.inr (by rw [runs]; rfl))
    | eviction pends => exact .inr (by rw [pends]; rfl)

theorem abortAll_foldl (now : Time.Instant) (s : Slot α) (c : Cache α) :
    c.abortAll now s = s.jobs.foldl (fun c n => c.abort now n) c := by
  have one (m : Option Nat) (c : Cache α) :
      c.abort? now m = m.toList.foldl (fun c n => c.abort now n) c := by
    cases m <;> rfl
  rw [Slot.jobs, List.foldl_append, List.foldl_append, abortAll, one, one, one]

/-- Several jobs with posts are given up, each once. -/
theorem held_aborts (now : Time.Instant) : ∀ (jobs : List Nat) {c : Cache α},
    c.agenda.Numbered c.begun → jobs.Nodup → (∀ n ∈ jobs, ∃ k q, c.agenda.Has k n q) →
      ((jobs.foldl (fun c n => c.abort now n) c).agenda.held i).Perm (c.agenda.held i)
  | [], _, _, _, _ => .refl _
  | n :: rest, c, inv, once, has => by
    obtain ⟨other, once⟩ := List.nodup_cons.mp once
    obtain ⟨⟨k, q, first⟩, has⟩ := List.forall_mem_cons.mp has
    have begun : (c.abort now n).begun = c.begun := by rw [abort_eq]
    refine (held_aborts now rest (begun ▸ numbered_abort inv n) once fun m hm => ?_).trans
      (held_abort inv first)
    obtain ⟨k, q, there⟩ := has m hm
    exact ⟨k, q, has_abort.mpr ⟨there, fun same => other (same ▸ hm)⟩⟩

theorem agenda_dropEntries (now : Time.Instant) (c : Cache α) : (c.dropEntries now).agenda =
    ((c.slots.rows.flatMap (fun row => row.2.jobs)).foldl (fun c n => c.abort now n) c).agenda := by
  rw [List.foldl_flatMap, dropEntries, List.foldl_map]
  simp only [abortAll_foldl]

/-- No two slots name the same job, and no slot names a job twice. -/
theorem nodup_jobs (inv : c.Staffed stray) (registered : c.Registered) :
    (c.slots.rows.flatMap (fun row => row.2.jobs)).Nodup := by
  have found {row : Key × Slot α} (listed : row ∈ c.slots.rows) : c.slots.find? row.1 = some row.2 :=
    registered.find?_iff.mpr listed
  have keys : (c.slots.rows.map Prod.fst).Nodup := by
    have keys := registered.keys
    rwa [roster, List.map_map] at keys
  refine List.nodup_flatMap.mpr ⟨fun row listed => ?_, ?_⟩
  · have apart {n m : Nat} {q r : Post} := inv.apart (n := n) (m := m) (p := q) (q := r) (found listed)
    have lone : ∀ m : Option Nat, m.toList.Nodup := Option.toList_nodup
    refine List.nodup_append.mpr ⟨List.nodup_append.mpr ⟨lone _, lone _, ?_⟩, lone _, ?_⟩
    · intro n hn m hm
      obtain ⟨g, names⟩ := Slot.names_flight (Option.mem_toList.mp hn)
      obtain ⟨period, names'⟩ := Slot.names_timer (Option.mem_toList.mp hm)
      exact apart names names' (by simp)
    · intro n hn m hm
      obtain ⟨token, names'⟩ := Slot.names_eviction (Option.mem_toList.mp hm)
      rcases List.mem_append.mp hn with hn | hn
      · obtain ⟨g, names⟩ := Slot.names_flight (Option.mem_toList.mp hn)
        exact apart names names' (by simp)
      · obtain ⟨period, names⟩ := Slot.names_timer (Option.mem_toList.mp hn)
        exact apart names names' (by simp)
  · refine (List.pairwise_map.mp keys).imp_of_mem fun {a b} ha hb differ n hn hm => differ ?_
    obtain ⟨q, names⟩ := Slot.mem_jobs.mp hn
    obtain ⟨r, names'⟩ := Slot.mem_jobs.mp hm
    exact (inv.numbered.unique (inv.named _ _ _ _ (found ha) names)
      (inv.named _ _ _ _ (found hb) names')).1

theorem held_dropEntries (inv : c.Staffed stray) (registered : c.Registered) :
    ((c.dropEntries now).agenda.held i).Perm (c.agenda.held i) := by
  rw [agenda_dropEntries]
  refine held_aborts now _ inv.numbered (nodup_jobs inv registered) fun n hn => ?_
  obtain ⟨row, listed, hn⟩ := List.mem_flatMap.mp hn
  obtain ⟨q, names⟩ := Slot.mem_jobs.mp hn
  exact ⟨_, q, inv.named _ _ _ _ (registered.find?_iff.mpr listed) names⟩

/-! ### What jobs do -/

/-- A job that calls the producer holds the call from then on. -/
theorem held_place {g : Nat} (call : Nat) (due : Option Nat) (inv : c.agenda.Numbered c.begun)
    (listed : j ∈ c.agenda) (duty : j.duty = .call g p) :
    ((c.agenda.change j.number (fun j => { j with duty := .reply g p call, due })).held i).Perm
      (c.agenda.held i ++ ((Duty.reply g p call).holds? i).toList) := by
  have none : j.duty.holds? i = none := by rw [duty]; rfl
  exact (held_change inv listed _).trans ((held_remove_of_none inv listed none).append_right _)

end TaskWatch.Cache
