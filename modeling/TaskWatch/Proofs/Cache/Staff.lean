import TaskWatch.Proofs.Cache.Faithful
import TaskWatch.Proofs.Cache.Post

/-! Slots and the jobs that work for them.

    A slot names the jobs that work for it: the fetch in flight, the timer and the pending eviction. In
    every reachable course these jobs are on the agenda, and a fetch on the agenda is either the one in
    flight that the slot of its query names, or it strayed: its entry was evicted meanwhile.

    To change its staff a slot gives up one job at most and has one begun at most. Numbers tell the
    jobs apart, so the staff of other slots is not affected; `Staffed.restaff` says this once. -/

namespace TaskWatch.Cache

variable {α : Type} {now : Time.Instant} {answer : Option (Except String α)} {k l : Key}
  {c c' : Cache α} {s s' : Slot α} {n m : Nat} {p q : Post} {stray stray' : Key → Nat → Prop}

/-- The job with this number fills the post for the slot. -/
inductive Slot.Names (s : Slot α) : Nat → Post → Prop
  | flight {f : Flight} (flying : s.inFlight = some f) : Names s f.job (.fetch f.generation)
  | timer {t : Timer} (runs : s.timer = some t) : Names s t.job (.poll t.period)
  | eviction {e : Eviction} (pends : s.eviction = some e) : Names s e.job (.collect e.token)

/-- A slot with the same records names the same jobs. -/
theorem Slot.names_congr (inFlight : s'.inFlight = s.inFlight) (timer : s'.timer = s.timer)
    (eviction : s'.eviction = s.eviction) : s'.Names n p ↔ s.Names n p := by
  constructor
  · intro h
    cases h with
    | flight flying => exact .flight (inFlight ▸ flying)
    | timer runs => exact .timer (timer ▸ runs)
    | eviction pends => exact .eviction (eviction ▸ pends)
  · intro h
    cases h with
    | flight flying => exact .flight (inFlight.trans flying)
    | timer runs => exact .timer (timer.trans runs)
    | eviction pends => exact .eviction (eviction.trans pends)

theorem Slot.Names.flying {g : Nat} (h : s.Names n (.fetch g)) :
    ∃ f, s.inFlight = some f ∧ f.job = n ∧ f.generation = g := by
  cases h with
  | flight flying => exact ⟨_, flying, rfl, rfl⟩

theorem Slot.Names.pending {token : Nat} (h : s.Names n (.collect token)) :
    ∃ e, s.eviction = some e ∧ e.token = token := by
  cases h with
  | eviction pends => exact ⟨_, pends, rfl⟩

/-- The same fetch is in flight. -/
theorem Slot.Names.fetch {g : Nat} (h : s.Names n (.fetch g)) (same : s'.inFlight = s.inFlight) :
    s'.Names n (.fetch g) := by
  cases h with
  | flight flying => exact .flight (same.trans flying)

/-- The job of the fetch in flight is named. -/
theorem Slot.names_flight (same : s.inFlight.map Flight.job = some n) :
    ∃ g, s.Names n (.fetch g) := by
  obtain ⟨f, flying, rfl⟩ := Option.map_eq_some_iff.mp same
  exact ⟨f.generation, .flight flying⟩

/-- The job of the timer is named. -/
theorem Slot.names_timer (same : s.timer.map Timer.job = some n) :
    ∃ period, s.Names n (.poll period) := by
  obtain ⟨t, runs, rfl⟩ := Option.map_eq_some_iff.mp same
  exact ⟨t.period, .timer runs⟩

/-- The job of a pending eviction is named. -/
theorem Slot.names_eviction (same : s.eviction.map Eviction.job = some n) :
    ∃ token, s.Names n (.collect token) := by
  obtain ⟨e, pends, rfl⟩ := Option.map_eq_some_iff.mp same
  exact ⟨e.token, .eviction pends⟩

/-- Slots have the jobs that they name, and a fetch on the agenda is named by its slot or strayed. -/
structure Staffed (stray : Key → Nat → Prop) (c : Cache α) : Prop where
  numbered : c.agenda.Numbered c.begun
  named : ∀ k s n p, c.slots.find? k = some s → s.Names n p → c.agenda.Has k n p
  fetches : ∀ k n g, c.agenda.Has k n (.fetch g) →
    stray k g ∨ ∃ s, c.slots.find? k = some s ∧ s.Names n (.fetch g)
  lonely : ∀ k s e, c.slots.find? k = some s → s.eviction = some e → s.subscribers = []
  closed : c.abandoned = true → ∀ k, c.slots.find? k = none

namespace Staffed

/-- A slot has a job of its own for each post. -/
theorem apart (inv : c.Staffed stray) (there : c.slots.find? k = some s) (h : s.Names n p)
    (h' : s.Names m q) (differ : p ≠ q) : n ≠ m := by
  rintro rfl
  exact differ (inv.numbered.unique (inv.named k s n p there h) (inv.named k s n q there h')).2

/-- To give up a job of one kind spares those of other kinds. -/
theorem spared (inv : c.Staffed stray) (there : c.slots.find? k = some s) {gone : Option Nat}
    {kind : Nat → Post} (named : ∀ n, gone = some n → ∃ x, s.Names n (kind x)) (h : s.Names n p)
    (other : ∀ x, kind x ≠ p) : gone ≠ some n := by
  intro same
  obtain ⟨x, h'⟩ := named n same
  exact inv.apart there h' h (other x) rfl

/-- What strayed before may have strayed still. -/
theorem mono (inv : c.Staffed stray) (more : ∀ k g, stray k g → stray' k g) : c.Staffed stray' :=
  ⟨inv.numbered, inv.named, fun k n g has => (inv.fetches k n g has).imp_left (more k g),
    inv.lonely, inv.closed⟩

/-- Only the agenda changes, and nothing of who fills which post. -/
theorem shuffle (inv : c.Staffed stray) (slots : ∀ l, c'.slots.find? l = c.slots.find? l)
    (numbered : c'.agenda.Numbered c'.begun)
    (agenda : ∀ k n p, c'.agenda.Has k n p ↔ c.agenda.Has k n p)
    (abandoned : c'.abandoned = c.abandoned) : c'.Staffed stray := by
  refine ⟨numbered, fun k s n p there h => ?_, fun k n g has => ?_, fun k s e there => ?_,
    fun gone k => ?_⟩
  · exact (agenda k n p).mpr (inv.named k s n p (slots k ▸ there) h)
  · rw [slots]
    exact inv.fetches k n g ((agenda k n _).mp has)
  · exact inv.lonely k s e (slots k ▸ there)
  · rw [slots]
    exact inv.closed (abandoned ▸ gone) k

/-- A slot changes its staff: the job with the number `gone` is given up, and one is begun for the
    post `fresh`. -/
theorem restaff (inv : c.Staffed stray) (there : c.slots.find? k = some s)
    (gone : Option Nat) (fresh : Option Post)
    (slots : ∀ l, c'.slots.find? l = if l = k then some s' else c.slots.find? l)
    (numbered : c'.agenda.Numbered c'.begun)
    (agenda : ∀ l n p, c'.agenda.Has l n p ↔
      (c.agenda.Has l n p ∧ gone ≠ some n) ∨ (k = l ∧ c.nextJob = n ∧ fresh = some p))
    (own : ∀ n, gone = some n → ∃ p, s.Names n p)
    (names : ∀ n p, s'.Names n p →
      (s.Names n p ∧ gone ≠ some n) ∨ (c.nextJob = n ∧ fresh = some p))
    (flights : ∀ n g, (s.Names n (.fetch g) ∧ gone ≠ some n) ∨
      (c.nextJob = n ∧ fresh = some (.fetch g)) → s'.Names n (.fetch g))
    (lonely : ∀ e, s'.eviction = some e → s'.subscribers = [])
    (abandoned : c'.abandoned = c.abandoned) : c'.Staffed stray := by
  refine ⟨numbered, fun l r n p found h => ?_, fun l n g has => ?_, fun l r e found => ?_,
    fun closed => ?_⟩
  · rw [slots] at found
    rw [agenda]
    split at found
    · rename_i hl
      subst hl
      obtain rfl := Option.some.inj found
      exact (names n p h).imp (fun h => ⟨inv.named l s n p there h.1, h.2⟩) (fun h => ⟨rfl, h⟩)
    · rename_i hl
      -- A job of another slot has another number than the one that is given up.
      refine .inl ⟨inv.named l r n p found h, fun same => hl ?_⟩
      obtain ⟨q, hq⟩ := own n same
      exact (inv.numbered.unique (inv.named l r n p found h) (inv.named k s n q there hq)).1
  · rcases (agenda l n _).mp has with ⟨has, kept⟩ | ⟨rfl, begun⟩
    · refine (inv.fetches l n g has).imp_right fun ⟨r, found, h⟩ => ?_
      by_cases hl : l = k
      · subst hl
        obtain rfl := Option.some.inj (there.symm.trans found)
        exact ⟨s', (slots l).trans (if_pos rfl), flights n g (.inl ⟨h, kept⟩)⟩
      · exact ⟨r, (slots l).trans (if_neg hl) |>.trans found, h⟩
    · exact .inr ⟨s', (slots k).trans (if_pos rfl), flights n g (.inr begun)⟩
  · rw [slots] at found
    split at found
    · obtain rfl := Option.some.inj found
      exact lonely e
    · exact inv.lonely l r e found
  · exact nomatch (inv.closed (abandoned ▸ closed) k).symm.trans there

/-- A slot is made that has no staff yet. -/
theorem made (inv : c.Staffed stray) (alive : c.abandoned = false)
    (slots : ∀ l, c'.slots.find? l = if l = k then some s' else c.slots.find? l)
    (vacant : c.slots.find? k = none) (idle : ∀ n p, ¬ s'.Names n p)
    (agenda : c'.agenda = c.agenda) (begun : c'.begun = c.begun)
    (abandoned : c'.abandoned = c.abandoned) : c'.Staffed stray := by
  refine ⟨by rw [agenda, begun]; exact inv.numbered, fun l r n p found h => ?_,
    fun l n g has => ?_, fun l r e found pends => ?_,
    fun closed => nomatch alive.symm.trans (abandoned.symm.trans closed)⟩
  · rw [slots] at found
    rw [agenda]
    split at found
    · obtain rfl := Option.some.inj found
      exact (idle n p h).elim
    · exact inv.named l r n p found h
  · rw [agenda] at has
    refine (inv.fetches l n g has).imp_right fun ⟨r, found, h⟩ => ⟨r, ?_, h⟩
    have hl : l ≠ k := by
      rintro rfl
      exact nomatch vacant.symm.trans found
    exact (slots l).trans (if_neg hl) |>.trans found
  · rw [slots] at found
    split at found
    · obtain rfl := Option.some.inj found
      exact (idle _ _ (.eviction pends)).elim
    · exact inv.lonely l r e found pends

/-- A slot is taken away, and perhaps a job of it. Its fetch strays if one is in flight. -/
theorem evicted (inv : c.Staffed stray) (there : c.slots.find? k = some s) (gone : Option Nat)
    (slots : ∀ l, c'.slots.find? l = if l = k then none else c.slots.find? l)
    (numbered : c'.agenda.Numbered c'.begun)
    (agenda : ∀ l n p, c'.agenda.Has l n p ↔ c.agenda.Has l n p ∧ gone ≠ some n)
    (own : ∀ n, gone = some n → ∃ p, c.agenda.Has k n p)
    (strays : ∀ f, s.inFlight = some f → stray' k f.generation)
    (more : ∀ k g, stray k g → stray' k g)
    (abandoned : c'.abandoned = c.abandoned) : c'.Staffed stray' := by
  refine ⟨numbered, fun l r n p found h => ?_, fun l n g has => ?_, fun l r e found => ?_,
    fun closed => nomatch (inv.closed (abandoned.symm.trans closed) k).symm.trans there⟩
  · rw [slots] at found
    split at found
    · exact nomatch found
    · rename_i hl
      refine (agenda l n p).mpr ⟨inv.named l r n p found h, fun same => hl ?_⟩
      obtain ⟨q, hq⟩ := own n same
      exact (inv.numbered.unique (inv.named l r n p found h) hq).1
  · rcases inv.fetches l n g ((agenda l n _).mp has).1 with h | ⟨r, found, h⟩
    · exact .inl (more l g h)
    · by_cases hl : l = k
      · subst hl
        obtain rfl := Option.some.inj (there.symm.trans found)
        cases h with
        | flight flying => exact .inl (strays _ flying)
      · exact .inr ⟨r, (slots l).trans (if_neg hl) |>.trans found, h⟩
  · rw [slots] at found
    split at found
    · exact nomatch found
    · exact inv.lonely l r e found

/-- A job leaves that no slot names. -/
theorem dismiss (inv : c.Staffed stray) {j : Job}
    (unnamed : ∀ k s p, c.slots.find? k = some s → ¬ s.Names j.number p) :
    (c.without j).Staffed stray := by
  refine ⟨inv.numbered.remove _, fun k s n p there h => ?_, fun k n g has => ?_, inv.lonely,
    inv.closed⟩
  · refine Agenda.has_remove.mpr ⟨inv.named k s n p there h, ?_⟩
    rintro rfl
    exact unnamed k s p there h
  · exact inv.fetches k n g (Agenda.has_remove.mp has).1

end Staffed

/-! ### What the operations do to the staff -/

/-- The fetch in flight is given up if there is one, and another is begun. -/
theorem staffed_launch (now : Time.Instant) (journal : List Event) (inv : c.Staffed stray)
    (there : c.slots.find? k = some s) :
    Staffed stray (launch now k s { c with
      agenda := (c.abort? now (s.inFlight.map Flight.job)).agenda, journal }) := by
  refine inv.restaff there (s.inFlight.map Flight.job) (some (.fetch c.nextNumber))
    (find?_setSlot _ k · _) (numbered_spawn (numbered_abort? now inv.numbered _) ..)
    (fun l n p => has_spawn.trans (or_congr_left has_abort?))
    (fun n same => (Slot.names_flight same).imp' _ fun _ h => h)
    (fun n p h => ?_) (fun n g h => ?_) (fun e => inv.lonely k s e there) rfl
  · have kept {n : Nat} {p : Post} := inv.spared there (n := n) (p := p) fun _ => Slot.names_flight
    cases h with
    | flight flying =>
      obtain rfl := Option.some.inj flying
      exact .inr ⟨rfl, rfl⟩
    | timer runs => exact .inl ⟨.timer runs, kept (.timer runs) nofun⟩
    | eviction pends => exact .inl ⟨.eviction pends, kept (.eviction pends) nofun⟩
  · rcases h with ⟨h, kept⟩ | ⟨rfl, same⟩
    · cases h with
      | flight flying => exact (kept (by rw [flying]; rfl)).elim
    · obtain rfl := Post.fetch.inj (Option.some.inj same)
      exact .flight (f := { generation := c.nextNumber, job := c.nextJob }) rfl

theorem staffed_startFetch {supersede : Bool} (inv : c.Staffed stray) :
    (c.startFetch now k supersede).1.Staffed stray := by
  cases hs : c.slots.find? k with
  | none => rw [startFetch_vacant hs]; exact inv
  | some s =>
    cases hf : s.inFlight with
    | none =>
      rw [startFetch_idle hs hf]
      have launched := staffed_launch now c.journal inv hs
      rwa [hf] at launched
    | some f =>
      cases supersede with
      | false => rw [startFetch_joined hs hf]; exact inv
      | true =>
        rw [startFetch_superseding hs hf, abort_eq]
        have launched := staffed_launch now (.superseding k f.generation :: c.journal) inv hs
        rwa [hf] at launched

/-- The timer is given up if there is one, and perhaps another is begun. -/
theorem staffed_retimed (inv : c.Staffed stray) (there : c.slots.find? k = some s)
    (fresh : Option Nat)
    (slots : ∀ l, c'.slots.find? l = if l = k then some { s with
      timer := fresh.map fun period => { period, job := c.nextJob } } else c.slots.find? l)
    (numbered : c'.agenda.Numbered c'.begun)
    (agenda : ∀ l n p, c'.agenda.Has l n p ↔ (c.agenda.Has l n p ∧ s.timer.map Timer.job ≠ some n) ∨
      (k = l ∧ c.nextJob = n ∧ fresh.map Post.poll = some p))
    (abandoned : c'.abandoned = c.abandoned) : c'.Staffed stray := by
  have kept {n : Nat} {p : Post} := inv.spared there (n := n) (p := p) fun _ => Slot.names_timer
  refine inv.restaff there (s.timer.map Timer.job) (fresh.map Post.poll) slots numbered agenda
    (fun n same => (Slot.names_timer same).imp' _ fun _ h => h) (fun n p h => ?_) (fun n g h => ?_)
    (fun e => inv.lonely k s e there) abandoned
  · cases h with
    | flight flying => exact .inl ⟨.flight flying, kept (.flight flying) nofun⟩
    | timer runs =>
      obtain ⟨period, rfl, rfl⟩ := Option.map_eq_some_iff.mp runs
      exact .inr ⟨rfl, rfl⟩
    | eviction pends => exact .inl ⟨.eviction pends, kept (.eviction pends) nofun⟩
  · rcases h with ⟨h, -⟩ | ⟨-, same⟩
    · exact h.fetch rfl
    · obtain ⟨period, -, other⟩ := Option.map_eq_some_iff.mp same
      exact nomatch other

theorem staffed_reschedule (inv : c.Staffed stray) : (c.reschedule now k).Staffed stray := by
  cases hs : c.slots.find? k with
  | none => rw [reschedule_vacant hs]; exact inv
  | some s =>
    have numbered : (c.stopTimer now k s.timer).agenda.Numbered (c.stopTimer now k s.timer).begun := by
      rw [agenda_stopTimer, begun_stopTimer]
      exact numbered_abort? now inv.numbered _
    have stopped : (c.stopTimer now k s.timer).abandoned = c.abandoned := by
      cases s.timer with
      | none => rfl
      | some t => rw [stopTimer, abort_eq]; rfl
    have next : (c.stopTimer now k s.timer).nextJob = c.nextJob :=
      congrArg (· + 1) (begun_stopTimer s.timer)
    rw [reschedule_eq hs]
    split
    · exact inv
    · cases s.period? with
      | none =>
        refine staffed_retimed inv hs none (fun l => ?_) numbered (fun l n p => ?_) stopped
        · exact (find?_setSlot _ k l _).trans (by rw [slots_stopTimer]; rfl)
        · rw [setSlot, agenda_stopTimer]
          exact has_abort?.trans (or_iff_left (by simp)).symm
      | some period =>
        refine staffed_retimed inv hs (some period) (fun l => ?_) (numbered_spawn numbered ..)
          (fun l n p => ?_) stopped
        · simp [report, spawn, next]
        · simp only [setSlot, report, has_spawn, agenda_stopTimer, has_abort?, next]
          rfl

/-- Who joins calls off a pending eviction. -/
theorem staffed_join (inv : c.Staffed stray) (there : c.slots.find? k = some s) (producer : Nat)
    (subscribers : List (Nat × Nat)) :
    ((c.numbered.abort? now (s.eviction.map Eviction.job)).setSlot k
      { s with eviction := none, producer, subscribers }).Staffed stray := by
  have kept {n : Nat} {p : Post} := inv.spared there (n := n) (p := p) fun _ => Slot.names_eviction
  rw [abort?_eq]
  refine inv.restaff there (s.eviction.map Eviction.job) none (find?_setSlot _ k · _)
    (numbered_abort? (c := c.numbered) now inv.numbered _) (fun l n p => ?_)
    (fun n same => (Slot.names_eviction same).imp' _ fun _ h => h)
    (fun n p h => ?_) (fun n g h => ?_) nofun rfl
  · exact has_abort?.trans (or_iff_left fun h => nomatch h.2.2).symm
  · cases h with
    | flight flying => exact .inl ⟨.flight flying, kept (.flight flying) nofun⟩
    | timer runs => exact .inl ⟨.timer runs, kept (.timer runs) nofun⟩
    | eviction pends => exact nomatch pends
  · exact h.elim (fun h => h.1.fetch rfl) (fun h => nomatch h.2)

/-- A slot keeps its staff. -/
theorem staffed_setSlot (inv : c.Staffed stray) (there : c.slots.find? k = some s)
    (same : ∀ n p, s'.Names n p ↔ s.Names n p)
    (lonely : ∀ e, s'.eviction = some e → s'.subscribers = []) :
    (c.setSlot k s').Staffed stray := by
  refine inv.restaff there none none (find?_setSlot c k · s') inv.numbered (fun l n p => ?_) nofun
    (fun n p h => ?_) (fun n g h => ?_) lonely rfl
  · exact (and_iff_left nofun).symm.trans (or_iff_left fun h => nomatch h.2.2).symm
  · exact .inl ⟨(same n p).mp h, nofun⟩
  · rcases h with ⟨h, -⟩ | ⟨-, fresh⟩
    · exact (same n _).mpr h
    · exact nomatch fresh

theorem staffed_linger {token due : Nat} (inv : c.Staffed stray)
    (there : c.slots.find? k = some s) (lonely : s.subscribers = []) :
    ((c.spawn now k (.collect token) due).setSlot k
      { s with eviction := some { token, job := c.nextJob } }).Staffed stray := by
  refine inv.restaff there none (some (.collect token)) (find?_setSlot _ k · _)
    (numbered_spawn inv.numbered ..) (fun l n p => ?_) nofun (fun n p h => ?_) (fun n g h => ?_)
    (fun _ _ => lonely) rfl
  · exact has_spawn.trans (or_congr_left (and_iff_left nofun).symm)
  · cases h with
    | flight flying => exact .inl ⟨.flight flying, nofun⟩
    | timer runs => exact .inl ⟨.timer runs, nofun⟩
    | eviction pends =>
      obtain rfl := Option.some.inj pends
      exact .inr ⟨rfl, rfl⟩
  · exact h.elim (fun h => h.1.fetch rfl) (fun h => nomatch h.2)

/-- The fetch in flight ends, and its job with it. -/
theorem staffed_ended {f : Flight} {entry : Entry α} {version : Nat} {invalidated : Bool}
    (inv : c.Staffed stray) (there : c.slots.find? k = some s) (flying : s.inFlight = some f)
    (slots : ∀ l, c'.slots.find? l = if l = k then
      some { s with inFlight := none, entry, version, invalidated } else c.slots.find? l)
    (agenda : c'.agenda = c.agenda.remove f.job) (begun : c'.begun = c.begun)
    (abandoned : c'.abandoned = c.abandoned) : c'.Staffed stray := by
  have kept {n : Nat} {p : Post} := inv.spared there (n := n) (p := p) fun _ => Slot.names_flight
  have gone : s.inFlight.map Flight.job = some f.job := by rw [flying]; rfl
  refine inv.restaff there (s.inFlight.map Flight.job) none slots ?_ (fun l n p => ?_)
    (fun n same => (Slot.names_flight same).imp' _ fun _ h => h)
    (fun n p h => ?_) (fun n g h => ?_) (fun e => inv.lonely _ s e there) abandoned
  · rw [agenda, begun]
    exact inv.numbered.remove _
  · rw [agenda, gone, Agenda.has_remove, ne_comm, ne_eq, ne_eq, Option.some.injEq]
    exact (or_iff_left fun h => nomatch h.2.2).symm
  · cases h with
    | flight flying' => exact nomatch flying'
    | timer runs => exact .inl ⟨.timer runs, kept (.timer runs) nofun⟩
    | eviction pends => exact .inl ⟨.eviction pends, kept (.eviction pends) nofun⟩
  · rcases h with ⟨h, kept⟩ | ⟨-, same⟩
    · cases h with
      | flight flying' => exact (kept (by rw [flying']; rfl)).elim
    · exact nomatch same

theorem staffed_enter {g : Nat} {j : Job} {f : Flight} {result : Except String α}
    (inv : c.Staffed stray) (there : c.slots.find? j.key = some s) (flying : s.inFlight = some f)
    (own : f.job = j.number) : ((c.without j).enter now j.key g s result).Staffed stray := by
  have removed : (c.without j).agenda = c.agenda.remove f.job := by rw [own]; rfl
  cases result with
  | ok a => exact staffed_ended inv there flying (find?_setSlot _ _ · _) removed rfl rfl
  | error message => exact staffed_ended inv there flying (find?_setSlot _ _ · _) removed rfl rfl

/-- A fetch that no slot has in flight leaves slots and jobs alone when it ends. -/
theorem staffed_commit_other {g : Nat} {result : Except String α} (inv : c.Staffed stray)
    (other : ∀ s, c.slots.find? k = some s → s.inFlight.map Flight.generation ≠ some g) :
    (c.commit now k g result).Staffed stray := by
  have same {c' : Cache α} (h : ∃ n e, c' = { c with stats := n, journal := e }) :
      c'.Staffed stray := by
    obtain ⟨n, e, rfl⟩ := h
    exact inv.shuffle (fun _ => rfl) inv.numbered (fun _ _ _ => .rfl) rfl
  cases hs : c.slots.find? k with
  | none => rw [commit_vacant hs]; exact same ⟨_, _, rfl⟩
  | some s => rw [commit_overtaken hs (other s hs)]; exact same ⟨_, _, rfl⟩

/-- A fetch takes the answer to its call, and its job is done. -/
theorem staffed_reply {g producer call : Nat} {j : Job} {result : Except String α}
    (inv : c.Staffed stray) (listed : j ∈ c.agenda) (duty : j.duty = .reply g producer call)
    (current : ∀ s f, c.slots.find? j.key = some s → s.inFlight = some f → f.generation = g →
      ¬ stray j.key g) : ((c.without j).settle now j.key g result).Staffed stray := by
  have has : c.agenda.Has j.key j.number (.fetch g) := ⟨j, listed, rfl, rfl, by rw [duty]; rfl⟩
  -- Only the slot of the query can name the job, and only as the fetch in flight.
  have named {l : Key} {s : Slot α} {p : Post} (there : c.slots.find? l = some s)
      (h : s.Names j.number p) : l = j.key ∧ s.inFlight.map Flight.generation = some g := by
    obtain ⟨rfl, rfl⟩ := inv.numbered.unique (inv.named l s _ _ there h) has
    obtain ⟨f, flying, -, rfl⟩ := h.flying
    exact ⟨rfl, by rw [flying]; rfl⟩
  unfold settle
  split
  · rename_i gone
    exact inv.dismiss fun l s p there _ => nomatch (inv.closed gone l).symm.trans there
  · by_cases flies : ∃ s, c.slots.find? j.key = some s ∧ s.inFlight.map Flight.generation = some g
    · obtain ⟨s, there, flies⟩ := flies
      obtain ⟨f, flying, rfl⟩ := Option.map_eq_some_iff.mp flies
      rw [commit_current (c := c.without j) there flying]
      refine staffed_enter inv there flying ?_
      obtain strayed | ⟨s', there', h⟩ := inv.fetches _ _ _ has
      · exact (current s f there flying rfl strayed).elim
      · obtain rfl := Option.some.inj (there.symm.trans there')
        obtain ⟨f', flying', own, -⟩ := h.flying
        rwa [Option.some.inj (flying.symm.trans flying')]
    · refine staffed_commit_other (inv.dismiss fun l s p there h => ?_)
        fun s there h => flies ⟨s, there, h⟩
      obtain ⟨rfl, h⟩ := named there h
      exact flies ⟨s, there, h⟩

/-- A fetch that has no job any more is in flight for no slot. -/
theorem staffed_straggle {g : Nat} {result : Except String α} (inv : c.Staffed stray)
    (given_up : ∀ j ∈ c.agenda, j.generation? ≠ some g) :
    (c.settle now k g result).Staffed stray := by
  unfold settle
  split
  · exact inv
  · refine staffed_commit_other inv fun s there flies => ?_
    obtain ⟨f, flying, rfl⟩ := Option.map_eq_some_iff.mp flies
    obtain ⟨j, hj, -, -, post⟩ := inv.named k s _ _ there (.flight flying)
    exact given_up j hj (Job.generation?_eq.mpr post)

/-- A job leaves that fills no post. -/
theorem staffed_release {j : Job} (inv : c.Staffed stray) (listed : j ∈ c.agenda)
    (free : j.duty.post? = none) : (c.without j).Staffed stray := by
  refine inv.dismiss fun k s p there h => ?_
  obtain ⟨i, hi, -, same, post⟩ := inv.named k s _ p there h
  obtain rfl := inv.numbered.job hi listed same
  exact nomatch free.symm.trans post

/-- A fetch that calls its producer fills the same post. -/
theorem has_place {begun g producer call : Nat} {j : Job} {due : Option Nat}
    (numbered : c.agenda.Numbered begun) (listed : j ∈ c.agenda) (duty : j.duty = .call g producer) :
    Agenda.Has (c.agenda.change j.number fun j => { j with duty := .reply g producer call, due })
      k n p ↔ c.agenda.Has k n p := by
  refine Agenda.has_map _ fun i hi => ?_
  split
  · rename_i same
    obtain rfl := numbered.job hi listed same
    rw [duty]
    exact ⟨rfl, rfl, rfl⟩
  · exact ⟨rfl, rfl, rfl⟩

/-- A fetch that calls its producer still carries out the same fetch. -/
theorem staffed_place {j : Job} {g producer call : Nat} {due : Option Nat} (inv : c.Staffed stray)
    (listed : j ∈ c.agenda) (duty : j.duty = .call g producer) :
    Staffed stray { c with
      agenda := c.agenda.change j.number (fun j => { j with duty := .reply g producer call, due }) } := by
  refine inv.shuffle (fun _ => rfl) (inv.numbered.map _ fun _ => ?_)
    (fun k n p => has_place inv.numbered listed duty) rfl
  dsimp only
  split <;> rfl

/-- A timer that waits for its next period fills the same post. -/
theorem has_move {begun period due : Nat} {j : Job} (numbered : c.agenda.Numbered begun)
    (listed : j ∈ c.agenda) (duty : j.duty = .poll period) :
    Agenda.Has (c.agenda.remove j.number ++ [{ j with due := some due, turn := now.turn }]) k n p ↔
      c.agenda.Has k n p := by
  have has : c.agenda.Has j.key j.number (.poll period) := ⟨j, listed, rfl, rfl, by rw [duty]; rfl⟩
  rw [Agenda.has_append, Agenda.has_remove, duty]
  constructor
  · rintro (⟨h, -⟩ | ⟨rfl, rfl, same⟩)
    · exact h
    · obtain rfl := Option.some.inj same
      exact has
  · intro h
    by_cases hn : n = j.number
    · subst hn
      obtain ⟨rfl, rfl⟩ := numbered.unique h has
      exact .inr ⟨rfl, rfl, rfl⟩
    · exact .inl ⟨h, hn⟩

/-- A timer that waits for its next period is the same timer. -/
theorem staffed_move {j : Job} {period due : Nat} (inv : c.Staffed stray) (listed : j ∈ c.agenda)
    (duty : j.duty = .poll period) :
    Staffed stray { c with
      agenda := c.agenda.remove j.number ++ [{ j with due := some due, turn := now.turn }] } :=
  inv.shuffle (fun _ => rfl)
    ((inv.numbered.remove _).append (Nat.le_refl _) (fun _ hi => (Agenda.mem_remove.mp hi).2)
      (inv.numbered.begun j listed))
    (fun _ _ _ => has_move inv.numbered listed duty) rfl

theorem staffed_evict (inv : c.Staffed stray) (there : c.slots.find? k = some s)
    (strays : ∀ f, s.inFlight = some f → stray' k f.generation)
    (more : ∀ k g, stray k g → stray' k g) : (c.evict k).Staffed stray' :=
  inv.evicted there none (Table.find?_erase c.slots k) inv.numbered
    (fun _ _ _ => (and_iff_left nofun).symm) nofun strays more rfl

/-- An eviction that pends takes its job along with the entry, and one that was called off leaves
    the entry alone. -/
theorem staffed_collect {j : Job} {token : Nat} (inv : c.Staffed stray) (listed : j ∈ c.agenda)
    (duty : j.duty = .collect token)
    (strays : ∀ s f, c.slots.find? j.key = some s → s.inFlight = some f →
      (c.without j).collect j.key token = (c.without j).evict j.key → stray' j.key f.generation)
    (more : ∀ k g, stray k g → stray' k g) :
    ((c.without j).collect j.key token).Staffed stray' := by
  have has : c.agenda.Has j.key j.number (.collect token) :=
    ⟨j, listed, rfl, rfl, by rw [duty]; rfl⟩
  cases hs : c.slots.find? j.key with
  | none =>
    have same : (c.without j).collect j.key token = c.without j := by
      simp [collect, without, hs]
    rw [same]
    refine (inv.dismiss fun l s p there h => ?_).mono more
    obtain ⟨rfl, -⟩ := inv.numbered.unique (inv.named l s _ p there h) has
    exact nomatch hs.symm.trans there
  | some s =>
    by_cases expired : (s.subscribers.isEmpty && s.eviction.any (fun e => e.token == token)) = true
    · have same : (c.without j).collect j.key token = (c.without j).evict j.key := by
        simp only [collect, without, hs, expired, if_true]
      rw [same]
      exact inv.evicted hs (some j.number) (Table.find?_erase c.slots j.key) (inv.numbered.remove _)
        (fun l n p => by
          rw [ne_eq, Option.some.injEq, eq_comm]
          exact Agenda.has_remove)
        (fun n same => ⟨_, Option.some.inj same ▸ has⟩)
        (fun f flying => strays s f hs flying same) more rfl
    · have same : (c.without j).collect j.key token = c.without j := by
        simp only [collect, without, hs, expired]
        rfl
      rw [same]
      refine (inv.dismiss fun l r p there h => ?_).mono more
      obtain ⟨rfl, rfl⟩ := inv.numbered.unique (inv.named l r _ p there h) has
      obtain rfl := Option.some.inj (hs.symm.trans there)
      obtain ⟨e, pends, rfl⟩ := h.pending
      refine expired ?_
      rw [inv.lonely _ s e there pends, pends]
      simp

/-! ### What changes and steps do to the staff -/

/-- The fetch was in flight when its entry was evicted. -/
def Stray (now : Time.Instant) (answer : Option (Except String α)) (past : Key → History α)
    (c : Cache α) (k : Key) (g : Nat) : Prop :=
  g ∈ History.evictedFlights (cell now answer k (past k) c).history

theorem stray_of_evict {past : Key → History α} {f : Flight}
    (faithful : (cell now answer k (past k) c).Faithful) (there : c.slots.find? k = some s)
    (flying : s.inFlight = some f) : Stray now answer past (c.evict k) k f.generation := by
  unfold Stray cell
  rw [signs_evict]
  exact List.mem_append_left _ (Option.mem_toList.mpr (faithful.flying there flying))

theorem Change.staffed (past : Key → History α) (h : Change now answer c c')
    (faithful : ∀ k, (Cache.cell now answer k (past k) c).Faithful)
    (inv : c.Staffed (Stray now answer past c)) : c'.Staffed (Stray now answer past c') := by
  have more (k : Key) (g : Nat) (hg : Stray now answer past c k g) : Stray now answer past c' k g :=
    h.cell.evictedFlights hg
  have current {k : Key} {s : Slot α} {f : Flight} (there : c.slots.find? k = some s)
      (flying : s.inFlight = some f) : ¬ Stray now answer past c k f.generation := fun hg =>
    Nat.lt_irrefl _ (History.evictedFlights_lt_flight (faithful k).orderly
      ((faithful k).flying there flying) _ hg)
  have same {c' : Cache α} (slots : c'.slots = c.slots) (agenda : c'.agenda = c.agenda)
      (begun : c'.begun = c.begun) (abandoned : c'.abandoned = c.abandoned) :
      c'.Staffed (Stray now answer past c) :=
    inv.shuffle (fun _ => by rw [slots]) (by rw [agenda, begun]; exact inv.numbered)
      (fun _ _ _ => by rw [agenda]) abandoned
  have keep (h : c'.Staffed (Stray now answer past c)) : c'.Staffed (Stray now answer past c') :=
    h.mono more
  cases h with
  | number => exact keep (same rfl rfl rfl rfl)
  | report plain => exact keep (same rfl rfl rfl rfl)
  | count => exact keep (same rfl rfl rfl rfl)
  | found alive valid vacant =>
    refine keep (staffed_startFetch (inv.made alive (find?_setSlot _ _ · _) vacant ?_ rfl rfl rfl))
    intro n p h
    cases h with
    | flight flying => exact nomatch flying
    | timer runs => exact nomatch runs
    | eviction pends => exact nomatch pends
  | join producer o there => exact keep (staffed_join inv there producer _)
  | start => exact keep (staffed_startFetch inv)
  | retime => exact keep (staffed_reschedule inv)
  | leave left fewer there =>
    refine keep (staffed_setSlot inv there (fun n p => Slot.names_congr rfl rfl rfl) fun e pends => ?_)
    exact List.sublist_nil.mp (inv.lonely _ _ e there pends ▸ fewer)
  | evict there lonely =>
    exact staffed_evict inv there (fun f => stray_of_evict (faithful _) there) more
  | linger there lonely => exact keep (staffed_linger inv there lonely)
  | @mark k s subscribed there =>
    have marked : (c.setSlot k { s with invalidated := true }).Staffed (Stray now answer past c) :=
      staffed_setSlot inv there (fun n p => Slot.names_congr rfl rfl rfl)
        (fun e => inv.lonely k s e there)
    exact keep (marked.shuffle (fun _ => rfl) marked.numbered (fun _ _ _ => .rfl) rfl)
  | place listed duty => exact keep (staffed_place inv listed duty)
  | reply listed duty taken =>
    exact keep (staffed_reply inv listed duty fun s f there flying hg => hg ▸ current there flying)
  | release listed duty => exact keep (staffed_release inv listed (by rw [duty]; rfl))
  | move listed duty => exact keep (staffed_move inv listed duty)
  | @collect j token listed duty =>
    refine staffed_collect inv listed duty (fun s f there flying evicts => ?_) more
    rw [evicts]
    exact stray_of_evict (c := c.without j) (faithful _) there flying
  | straggle given_up taken => exact keep (staffed_straggle inv given_up)

theorem Changes.staffed (past : Key → History α) (h : Changes now answer c c')
    (faithful : ∀ k, (Cache.cell now answer k (past k) c).Faithful)
    (inv : c.Staffed (Stray now answer past c)) : c'.Staffed (Stray now answer past c') := by
  induction h with
  | refl => exact inv
  | tail before change ih =>
    exact change.staffed past (fun k => (Changes.cell before).faithful (faithful k)) ih

/-- To give up all that is under way for a slot takes off the jobs that it names. -/
theorem has_abortAll : (c.abortAll now s).agenda.Has k n p ↔
    c.agenda.Has k n p ∧ ∀ q, ¬ s.Names n q := by
  unfold abortAll
  rw [has_abort?, has_abort?, has_abort?, and_assoc, and_assoc]
  refine and_congr_right fun _ => ⟨?_, fun h => ⟨?_, ?_, ?_⟩⟩
  · rintro ⟨flight, timer, eviction⟩ q h
    cases h with
    | flight flying => exact flight (by rw [flying]; rfl)
    | timer runs => exact timer (by rw [runs]; rfl)
    | eviction pends => exact eviction (by rw [pends]; rfl)
  · exact fun same => (Slot.names_flight same).elim fun _ => h _
  · exact fun same => (Slot.names_timer same).elim fun _ => h _
  · exact fun same => (Slot.names_eviction same).elim fun _ => h _

theorem begun_abortAll (now : Time.Instant) (s : Slot α) (c : Cache α) :
    (c.abortAll now s).begun = c.begun := by
  rw [abortAll_eq]

theorem numbered_abortAll (now : Time.Instant) (inv : c.agenda.Numbered c.begun) (s : Slot α) :
    (c.abortAll now s).agenda.Numbered c.begun := by
  have aborted {c : Cache α} {begun : Nat} (same : c.begun = begun) (n : Option Nat)
      (inv : c.agenda.Numbered begun) : (c.abort? now n).begun = begun ∧
        (c.abort? now n).agenda.Numbered begun := by
    subst same
    exact ⟨by rw [abort?_eq], numbered_abort? now inv n⟩
  obtain ⟨same, first⟩ := aborted rfl (s.inFlight.map Flight.job) inv
  obtain ⟨same, second⟩ := aborted same (s.timer.map Timer.job) first
  exact (aborted same (s.eviction.map Eviction.job) second).2

theorem has_foldl_abortAll : ∀ (slots : List (Slot α)) (c : Cache α),
    (slots.foldl (fun c s => c.abortAll now s) c).agenda.Has k n p ↔
      c.agenda.Has k n p ∧ ∀ s ∈ slots, ∀ q, ¬ s.Names n q
  | [], c => by simp
  | s :: rest, c => by
    rw [List.foldl_cons, has_foldl_abortAll rest, has_abortAll, and_assoc, List.forall_mem_cons]

theorem numbered_foldl_abortAll (now : Time.Instant) : ∀ (slots : List (Slot α)) (c : Cache α),
    c.agenda.Numbered c.begun →
      (slots.foldl (fun c s => c.abortAll now s) c).agenda.Numbered c.begun
  | [], _, inv => inv
  | s :: rest, c, inv => by
    rw [List.foldl_cons, ← begun_abortAll now s c]
    refine numbered_foldl_abortAll now rest _ ?_
    rw [begun_abortAll]
    exact numbered_abortAll now inv s

/-- When every entry is dropped, nothing is left on the agenda but what strayed before. -/
theorem staffed_dropEntries (now : Time.Instant) (inv : c.Staffed stray) (registered : c.Registered)
    (slots : c'.slots = {}) (agenda : c'.agenda = (c.dropEntries now).agenda)
    (begun : c'.begun = c.begun) : c'.Staffed stray := by
  have vacant (k : Key) : c'.slots.find? k = none := by rw [slots]; rfl
  refine ⟨?_, fun k s n p there => (nomatch (vacant k).symm.trans there), fun k n g has => ?_,
    fun k s e there => (nomatch (vacant k).symm.trans there), fun _ => vacant⟩
  · rw [agenda, begun]
    exact numbered_foldl_abortAll now _ c inv.numbered
  · rw [agenda] at has
    obtain ⟨has, unnamed⟩ := (has_foldl_abortAll _ c).mp has
    refine .inl ((inv.fetches k n g has).resolve_right fun ⟨s, there, h⟩ => ?_)
    exact unnamed s (List.mem_map_of_mem (registered.find?_iff.mp there)) _ h

namespace Course

variable {w w' : Course α}

/-- The fetch was in flight when its entry was evicted. -/
def Stray (w : Course α) (k : Key) (g : Nat) : Prop := g ∈ (w.history k).evictedFlights

theorem Effect.staffed (h : Effect w w') (hw : w.Reachable)
    (inv : w.cache.Staffed w.Stray) : w'.cache.Staffed w'.Stray := by
  have more (k : Key) (g : Nat) (hg : w.Stray k g) : w'.Stray k g := by
    have leads : Cell.Leads k (w.cell k) (w'.cell k) := h.cell hw.booked
    exact leads.evictedFlights hg
  cases h with
  | @changed c deed handles plain changes =>
    have staffed := changes.staffed w.history
      (fun k => by rw [cell_before hw.booked]; exact hw.faithful) (inv.mono fun k g hg => by
        rw [Cache.Stray, cell_before hw.booked]
        exact hg)
    have booked : Staffed _ { c with journal := [] } :=
      staffed.shuffle (fun _ => rfl) staffed.numbered (fun _ _ _ => .rfl) rfl
    refine booked.mono fun k g hg => ?_
    rw [Cache.Stray, cell_behind plain c handles] at hg
    exact hg
  | dropped deed abandoned events said plain =>
    have dropped : Staffed w.Stray { w.cache.dropEntries w.now with abandoned, journal := [] } :=
      staffed_dropEntries w.now inv hw.registered (by rw [dropEntries_eq]) rfl
        (by rw [dropEntries_eq])
    exact dropped.mono more
  | answered waits calls =>
    exact inv.shuffle (fun _ => rfl) (numbered_answered inv.numbered)
      (fun _ _ _ => has_answered) rfl
  | passed now handles later => exact inv

theorem Reachable.staffed (hw : w.Reachable) : w.cache.Staffed w.Stray := by
  obtain ⟨grace, now, h⟩ := hw
  induction h with
  | refl =>
    exact ⟨⟨List.nodup_nil, fun j hj => (List.not_mem_nil hj).elim⟩,
      fun k s n p there => (nomatch (fresh_vacant grace now k).symm.trans there),
      fun k n g ⟨j, hj, _⟩ => (List.not_mem_nil hj).elim,
      fun k s e there => (nomatch (fresh_vacant grace now k).symm.trans there), fun _ k => rfl⟩
  | tail before step ih => exact step.effect.staffed ⟨grace, now, before⟩ ih

/-- A cache that was given up has no slots. -/
theorem Reachable.alive (hw : w.Reachable) (there : w.cache.slots.find? k = some s) :
    w.cache.abandoned = false := by
  refine Bool.eq_false_iff.mpr fun gone => ?_
  simp [hw.staffed.closed gone k] at there

end Course

end TaskWatch.Cache
