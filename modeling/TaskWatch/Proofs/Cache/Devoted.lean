import TaskWatch.Proofs.Cache.Serving
import TaskWatch.Proofs.Cache.Staff
import TaskWatch.Proofs.Cache.Timers

/-! Caches devoted to one query.

    While nobody subscribes to another query and nobody leaves, a cache has one entry at most, which is
    never evicted, and so no fetch strays: every fetch under way is the one in flight. When its call is
    answered, the answer is entered. -/

namespace TaskWatch.Cache

variable {α : Type} {now : Time.Instant} {k : Key} {c c' : Cache α}

/-- There is no entry but that of the query, which has subscribers, and no fetch strayed. -/
structure Devoted (k : Key) (c : Cache α) : Prop where
  staffed : c.Staffed fun _ _ => False
  watched : ∀ l s, c.slots.find? l = some s → l = k ∧ s.subscribers ≠ []

/-- A cache that nobody has used is devoted to any query. -/
theorem devoted_fresh (grace : Nat) (k : Key) : ({ grace } : Cache α).Devoted k := by
  have reachable : (Course.fresh (α := α) grace ⟨0, Time.benchStart, 0⟩).Reachable := ⟨_, _, .refl⟩
  refine ⟨reachable.staffed.mono fun l g strayed => ?_, fun l s there => ?_⟩
  · exact List.not_mem_nil strayed
  · exact nomatch (Course.fresh_vacant grace ⟨0, Time.benchStart, 0⟩ l).symm.trans there

namespace Devoted

/-- Nothing changes about who is interested in what. -/
theorem spared (inv : c.Devoted k) (staffed : c'.Staffed fun _ _ => False)
    (same : ∀ l, (c'.slots.find? l).map Slot.interest = (c.slots.find? l).map Slot.interest) :
    c'.Devoted k := by
  refine ⟨staffed, fun l s' there' => ?_⟩
  have interest := same l
  rw [there', Option.map_some, eq_comm] at interest
  obtain ⟨s, there, same⟩ := Option.map_eq_some_iff.mp interest
  rw [← show s.subscribers = s'.subscribers from congrArg Interest.subscribers same]
  exact inv.watched l s there

theorem booked (inv : c.Devoted k) : Devoted k { c with journal := [] } :=
  inv.spared (inv.staffed.shuffle (fun _ => rfl) inv.staffed.numbered (fun _ _ _ => .rfl) rfl)
    fun _ => rfl

theorem startFetch (inv : c.Devoted k) {l : Key} {supersede : Bool} :
    (c.startFetch now l supersede).1.Devoted k :=
  inv.spared (staffed_startFetch inv.staffed) fun _ => spares_startFetch.slot

theorem refetch (inv : c.Devoted k) {l : Key} (done : c.refetch now l = .ok c') : c'.Devoted k := by
  unfold Cache.refetch at done
  split at done
  · obtain rfl := Except.ok.inj done
    exact inv.startFetch
  · exact nomatch done

theorem invalidate (inv : c.Devoted k) {l : Key} : (c.invalidate now l).1.Devoted k := by
  have spares (l' : Key) : Spares l' c (c.invalidate now l).1 := spares_invalidate
  refine inv.spared ?_ fun l' => (spares l').slot
  unfold Cache.invalidate
  cases there : c.slots.find? l with
  | none => exact inv.staffed
  | some s =>
    have marked : Staffed (fun _ _ => False) (c.setSlot l { s with invalidated := true }) :=
      staffed_setSlot inv.staffed there (fun n p => Slot.names_congr rfl rfl rfl)
        fun e => inv.staffed.lonely l s e there
    have reported (e : Event) : Staffed (fun _ _ => False)
        ((c.setSlot l { s with invalidated := true }).report e) :=
      marked.shuffle (fun _ => rfl) marked.numbered (fun _ _ _ => .rfl) rfl
    dsimp only
    split
    · exact staffed_startFetch (reported _)
    · exact reported _

/-- Who subscribes first is interested from then on. -/
theorem subscribe {producer : Nat} {o : Options} {h : Handle} (inv : c.Devoted k)
    (alive : c.abandoned = false) (vacant : c.slots.find? k = none)
    (done : c.subscribe now k producer o = .ok (c', h)) : c'.Devoted k := by
  rw [subscribe_vacant (valid_of_subscribe done) vacant] at done
  obtain ⟨rfl, -⟩ := Prod.mk.inj (Except.ok.inj done)
  have made : (c.numbered.found k producer o c.nextNumber).Devoted k := by
    refine ⟨inv.staffed.made alive (find?_setSlot _ _ · _) vacant (fun n p h => ?_) rfl rfl rfl,
      fun l s there => ?_⟩
    · cases h with
      | flight flying => exact nomatch flying
      | timer runs => exact nomatch runs
      | eviction pends => exact nomatch pends
    rw [show (c.numbered.found k producer o c.nextNumber).slots.find? l = _ from
      find?_setSlot c.numbered k l _] at there
    split at there
    · obtain rfl := Option.some.inj there
      exact ⟨‹l = k›, List.cons_ne_nil _ _⟩
    · exact inv.watched l s there
  have founded : (c.founded now k producer o).Devoted k := made.startFetch
  refine ⟨staffed_reschedule founded.staffed, fun l s there => ?_⟩
  obtain ⟨s₀, there₀, -⟩ := (founded_spec none now k producer o c).1
  obtain ⟨timer, found⟩ := find?_reschedule now there₀
  rw [found] at there
  split at there
  · obtain rfl := Option.some.inj there
    exact ⟨‹l = k›, (founded.watched k s₀ there₀).2⟩
  · exact founded.watched l s there

theorem scheduledFetch (inv : c.Devoted k) {l : Key} : (c.scheduledFetch now l).Devoted k := by
  have started : (c.startFetch now l false).1.Devoted k := inv.startFetch
  unfold Cache.scheduledFetch
  dsimp only
  split
  · exact started
  · exact ⟨started.staffed.shuffle (fun _ => rfl) started.staffed.numbered (fun _ _ _ => .rfl) rfl,
      started.watched⟩

theorem repeated {l : Key} : ∀ (n : Nat) {c : Cache α}, c.Devoted k →
    (repeated (Cache.scheduledFetch now l) n c).Devoted k
  | 0, _, inv => inv
  | n + 1, _, inv => repeated n inv.scheduledFetch

/-- No eviction is carried out. -/
theorem collect_without (inv : c.Devoted k) (j : Job) (token : Nat) :
    (c.without j).collect j.key token = c.without j := by
  unfold collect
  cases there : (c.without j).slots.find? j.key with
  | none => rfl
  | some s =>
    have watched : s.subscribers.isEmpty = false :=
      List.isEmpty_eq_false_iff.mpr (inv.watched j.key s there).2
    simp [watched]

theorem runJob {σ : Type} (inv : c.Devoted k) (supplier : Supplier σ α) (state : σ) {j : Job}
    (listed : j ∈ c.agenda) : (c.runJob supplier now j state).1.Devoted k := by
  unfold Cache.runJob
  cases duty : j.duty with
  | call g producer => exact inv.spared (staffed_place inv.staffed listed duty) fun _ => rfl
  | reply g producer call =>
    exact inv.spared (staffed_reply inv.staffed listed duty fun _ _ _ _ _ => id)
      fun _ => ((spares_without j).trans spares_settle).slot
  | release producer call =>
    exact inv.spared (staffed_release inv.staffed listed (by rw [duty]; rfl)) fun _ => rfl
  | poll period =>
    exact repeated _ (inv.spared (staffed_move inv.staffed listed duty) fun _ => rfl)
  | collect token =>
    have kept : (c.without j).collect j.key token = c.without j := inv.collect_without j token
    have staffed : ((c.without j).collect j.key token).Staffed fun _ _ => False := by
      refine staffed_collect inv.staffed listed duty (fun s f there _ evicts => ?_) fun _ _ => id
      have gone : ((c.without j).evict j.key).slots.find? j.key = none :=
        (Table.find?_erase _ _ _).trans (if_pos rfl)
      rw [← evicts, kept] at gone
      exact nomatch gone.symm.trans there
    show ((c.without j).collect j.key token).Devoted k
    rw [kept] at staffed ⊢
    exact inv.spared staffed fun _ => rfl

/-- The answer to a call is entered, and one that reports a failure changes the entry accordingly. -/
theorem entry_of_failed {g producer call : Nat} {j : Job} (inv : c.Devoted k)
    (listed : j ∈ c.agenda) (duty : j.duty = .reply g producer call) :
    j.key = k ∧ ∃ e, c.entry? k = some e ∧ ∀ (now : Time.Instant) (m : String),
      Cache.entry? ((c.without j).settle now j.key g (.error m)) k = some (e.fail m) := by
  have has : c.agenda.Has j.key j.number (.fetch g) := ⟨j, listed, rfl, rfl, by rw [duty]; rfl⟩
  obtain ⟨s, there, named⟩ := (inv.staffed.fetches _ _ _ has).resolve_left id
  obtain ⟨f, flying, -, rfl⟩ := named.flying
  obtain ⟨rfl, -⟩ := inv.watched _ s there
  have alive : (c.without j).abandoned = false :=
    Bool.eq_false_iff.mpr fun gone => nomatch (inv.staffed.closed gone j.key).symm.trans there
  refine ⟨rfl, s.entry, by rw [ entry?, there]; rfl, fun now m => ?_⟩
  rw [settle, alive, if_neg Bool.false_ne_true, commit_current (c := c.without j) there flying, enter,
    entry?, find?_setSlot_self]
  rfl

end Devoted

end TaskWatch.Cache
