import TaskWatch.Proofs.Cache.Basic
import TaskWatch.Proofs.Cache.Course

/-! The small changes that the operations of a cache are made of.

    Every operation on a cache, and every job that it runs, is a chain of a few changes, unless it
    drops all entries at once. What each change keeps is therefore kept by every operation. -/

namespace TaskWatch.Cache

open Relation

variable {α : Type}

/-- The event says nothing of what becomes of a query. -/
def Event.Plain (α : Type) (e : Event) : Prop :=
  ∀ (k : Key) (answer : Option (Except String α)), e.sign? k answer = none

/-- A change that a cache undergoes at one moment, perhaps on taking an answer. -/
inductive Change (now : Time.Instant) (answer : Option (Except String α)) :
    Cache α → Cache α → Prop
  | number {c : Cache α} : Change now answer c c.numbered
  | report {c : Cache α} {e : Event} (plain : e.Plain α) : Change now answer c (c.report e)
  | count {c : Cache α} {f : Stats → Stats} : Change now answer c (c.count f)
  /-- Somebody is the first to be interested in a query. -/
  | found {c : Cache α} {k : Key} {producer : Nat} {o : Options} (alive : c.abandoned = false)
      (valid : k.isValid = true) (vacant : c.slots.find? k = none) :
      Change now answer c
        ((c.numbered.found k producer o c.nextNumber).startFetch now k false).1
  /-- Somebody joins those who are interested in a query. -/
  | join {c : Cache α} {k : Key} {s : Slot α} (producer : Nat) (o : Options)
      (there : c.slots.find? k = some s) :
      Change now answer c ((c.numbered.abort? now (s.eviction.map Eviction.job)).setSlot k
        { s with eviction := none, producer,
                 subscribers := s.subscribers ++ [(c.nextNumber, o.interval)] })
  | start {c : Cache α} {k : Key} {supersede : Bool} :
      Change now answer c (c.startFetch now k supersede).1
  | retime {c : Cache α} {k : Key} : Change now answer c (c.reschedule now k)
  | leave {c : Cache α} {k : Key} {s : Slot α} (left : List (Nat × Nat))
      (fewer : left.Sublist s.subscribers) (there : c.slots.find? k = some s) :
      Change now answer c (c.setSlot k { s with subscribers := left })
  | evict {c : Cache α} {k : Key} {s : Slot α} (there : c.slots.find? k = some s)
      (lonely : s.subscribers = []) : Change now answer c (c.evict k)
  /-- An eviction is scheduled. -/
  | linger {c : Cache α} {k : Key} {s : Slot α} {token : Nat} (there : c.slots.find? k = some s)
      (lonely : s.subscribers = []) :
      Change now answer c ((c.spawn now k (.collect token) (now.elapsed + c.grace)).setSlot k
        { s with eviction := some { token, job := c.nextJob } })
  | mark {c : Cache α} {k : Key} {s : Slot α} (subscribed : Bool)
      (there : c.slots.find? k = some s) :
      Change now answer c
        ((c.setSlot k { s with invalidated := true }).report (.invalidated k subscribed))
  /-- A fetch calls its producer. -/
  | place {c : Cache α} {j : Job} {g producer call : Nat} {due : Option Nat}
      (listed : j ∈ c.agenda) (duty : j.duty = .call g producer) :
      Change now answer c { c with
        agenda := c.agenda.change j.number (fun j => { j with duty := .reply g producer call, due }) }
  /-- A fetch takes the answer to its call. -/
  | reply {c : Cache α} {j : Job} {g producer call : Nat} {result : Except String α}
      (listed : j ∈ c.agenda) (duty : j.duty = .reply g producer call)
      (taken : answer = some result) :
      Change now answer c ((c.without j).settle now j.key g result)
  | release {c : Cache α} {j : Job} {producer call : Nat} (listed : j ∈ c.agenda)
      (duty : j.duty = .release producer call) : Change now answer c (c.without j)
  /-- A timer waits for its next period. -/
  | move {c : Cache α} {j : Job} {period due : Nat} (listed : j ∈ c.agenda)
      (duty : j.duty = .poll period) :
      Change now answer c { c with
        agenda := c.agenda.remove j.number ++ [{ j with due := some due, turn := now.turn }] }
  | collect {c : Cache α} {j : Job} {token : Nat} (listed : j ∈ c.agenda)
      (duty : j.duty = .collect token) :
      Change now answer c ((c.without j).collect j.key token)
  /-- A fetch finishes that had been given up. -/
  | straggle {c : Cache α} {k : Key} {g : Nat} {result : Except String α}
      (given_up : ∀ j ∈ c.agenda, j.generation? ≠ some g) (taken : answer = some result) :
      Change now answer c (c.settle now k g result)

/-- Changes that follow each other at one moment. -/
def Changes (now : Time.Instant) (answer : Option (Except String α)) : Cache α → Cache α → Prop :=
  ReflTransGen (Change now answer)

variable {now : Time.Instant} {answer : Option (Except String α)} {c c' : Cache α} {k : Key}

theorem Change.chain (h : Change now answer c c') : Changes now answer c c' := .single h

/-! ### What the operations are made of -/

theorem report_changes {e : Event} (plain : e.Plain α) : Changes now answer c (c.report e) :=
  (Change.report plain).chain

theorem scheduledFetch_changes : Changes now answer c (c.scheduledFetch now k) := by
  unfold scheduledFetch
  dsimp only
  split
  · exact Change.start.chain
  · exact Change.start.chain.trans (report_changes fun _ _ => rfl)

theorem repeated_changes {f : Cache α → Cache α} (hf : ∀ c, Changes now answer c (f c)) :
    ∀ (n : Nat) (c : Cache α), Changes now answer c (repeated f n c)
  | 0, _ => .refl
  | n + 1, c => (hf c).trans (repeated_changes hf n (f c))

theorem tick_changes {j : Job} {period : Nat} (listed : j ∈ c.agenda)
    (duty : j.duty = .poll period) : Changes now answer c (c.tick now j period) :=
  (Change.move listed duty).chain.trans (repeated_changes (fun _ => scheduledFetch_changes) _ _)

/-- A subscriber joins, is counted, and perhaps reported. -/
theorem join_changes {s : Slot α} {producer : Nat} {o : Options}
    (there : c.slots.find? k = some s) :
    Changes now answer c (c.numbered.join now k s producer o c.nextNumber).1 := by
  have joined : Changes now answer c _ := (Change.join producer o there).chain
  have counted (f : Stats → Stats) : Changes now answer c _ := joined.tail (.count (f := f))
  unfold join
  dsimp only
  split
  · exact (counted _).tail (Change.report fun _ _ => rfl)
  · split
    · split
      · exact counted fun t => { t with staleHits := t.staleHits + 1 }
      · exact counted fun t => { t with misses := t.misses + 1 }
    · exact counted fun t => { t with hits := t.hits + 1 }

theorem subscribe_changes {producer : Nat} {o : Options} {h : Handle} (alive : c.abandoned = false)
    (done : c.subscribe now k producer o = .ok (c', h)) : Changes now answer c c' := by
  unfold subscribe at done
  split at done
  · exact nomatch done
  · rename_i valid
    replace valid : k.isValid = true := by simpa using valid
    cases hs : c.slots.find? k with
    | none =>
      simp only [hs, if_true, Except.ok.injEq, Prod.mk.injEq] at done
      obtain ⟨rfl, -⟩ := done
      exact (Change.found alive valid hs).chain.trans Change.retime.chain
    | some s =>
      simp only [hs, Except.ok.injEq, Prod.mk.injEq] at done
      obtain ⟨rfl, -⟩ := done
      have joined : Changes now answer c (c.numbered.join now k s producer o c.nextNumber).1 :=
        join_changes hs
      refine (joined.trans ?_).trans Change.retime.chain
      split
      · exact Change.start.chain
      · exact .refl

/-- The last subscriber of a query has left. -/
theorem abandonEntry_changes {s : Slot α} {token : Nat} (there : c.slots.find? k = some s)
    (lonely : s.subscribers = []) : Changes now answer c (c.abandonEntry now k token) := by
  unfold abandonEntry
  split
  · exact (Change.evict there lonely).chain
  · simp only [there]
    exact (Change.linger there lonely).chain.tail (Change.report fun _ _ => rfl)

theorem unsubscribe_changes {h : Handle} : Changes now answer c (c.unsubscribe now h) := by
  have numbered : Changes now answer c c.numbered := Change.number.chain
  unfold unsubscribe
  dsimp only
  cases hs : c.numbered.slots.find? h.key with
  | none => exact numbered
  | some s =>
    dsimp only
    split
    · let left := s.subscribers.filter (fun p => p.1 != h.subscriber)
      have retimed := (numbered.tail (.leave left List.filter_sublist hs)).tail (.retime (k := h.key))
      split
      · rename_i nobody
        obtain ⟨timer, found⟩ := find?_reschedule now
          (find?_setSlot_self c.numbered h.key { s with subscribers := left })
        refine retimed.trans (abandonEntry_changes ((found h.key).trans (if_pos rfl)) ?_)
        exact List.isEmpty_iff.mp nobody
      · exact retimed
    · exact numbered

theorem refetch_changes (done : c.refetch now k = .ok c') : Changes now answer c c' := by
  unfold refetch at done
  split at done
  · obtain rfl := Except.ok.inj done
    exact Change.start.chain
  · exact nomatch done

theorem invalidate_changes : Changes now answer c (c.invalidate now k).1 := by
  unfold invalidate
  cases hs : c.slots.find? k with
  | none => exact .refl
  | some s =>
    have marked : Changes now answer c _ := (Change.mark (!s.subscribers.isEmpty) hs).chain
    dsimp only
    split
    · exact marked.tail Change.start
    · exact marked

theorem runJob_changes {σ : Type} {supplier : Supplier σ α} {state : σ} {j : Job}
    (listed : j ∈ c.agenda) :
    Changes now (supplier.answer? j state) c (c.runJob supplier now j state).1 := by
  unfold runJob
  cases hd : j.duty with
  | call g producer => exact (Change.place listed hd).chain
  | reply g producer call =>
    exact (Change.reply listed hd (by simp [Supplier.answer?, hd])).chain
  | release producer call => exact (Change.release listed hd).chain
  | poll period => exact tick_changes listed hd
  | collect token => exact (Change.collect listed hd).chain

/-! ### What the steps of a course are made of -/

/-- What a step does: a chain of changes, dropping all entries, or nothing to any slot. -/
inductive Course.Effect : Course α → Course α → Prop
  | changed {w : Course α} {c : Cache α} (deed : Deed α) (handles : List (Option Handle))
      (plain : deed.sign? = none) (changes : Changes w.now deed.answer? w.cache c) :
      Effect w { w.after deed c with handles }
  | dropped {w : Course α} (deed : Deed α) (abandoned : Bool) (events : List Event)
      (said : deed.sign? = some .cleared) (plain : ∀ e ∈ events, e.Plain α) :
      Effect w (w.after deed { w.cache.dropEntries w.now with
        abandoned, journal := events ++ w.cache.journal })
  | answered {w : Course α} (waits : Job → Bool) (calls : ∀ j, waits j = true → j.isReply = true) :
      Effect w { w with cache :=
        { w.cache with agenda := Agenda.answered w.now waits w.cache.agenda } }
  | passed {w : Course α} (now : Time.Instant) (handles : List (Option Handle))
      (later : w.now.elapsed ≤ now.elapsed) : Effect w { w with now, handles }

theorem Course.Step.effect {w w' : Course α} (h : Step w w') : Effect w w' := by
  cases h with
  | subscribe k producer o alive done => exact .changed _ _ rfl (subscribe_changes alive done)
  | unsubscribe i alive held => exact .changed (.unsubscribe _) _ rfl unsubscribe_changes
  | refetch k alive done => exact .changed (.refetch k) w.handles rfl (refetch_changes done)
  | invalidate k alive => exact .changed (.invalidate k) w.handles rfl invalidate_changes
  | clear alive =>
    rw [Cache.clear, Cache.report, dropEntries_eq]
    have dropped := Effect.dropped (w := w) .clear w.cache.abandoned [.cleared] rfl
      (fun e he => by obtain rfl := List.mem_singleton.mp he; exact fun _ _ => rfl)
    rwa [dropEntries_eq] at dropped
  | abandon =>
    rw [Cache.abandon, dropEntries_eq]
    have dropped := Effect.dropped (w := w) .abandon true [] rfl
      (fun e he => (List.not_mem_nil he).elim)
    rwa [dropEntries_eq] at dropped
  | run supplier s listed due =>
    exact .changed (.run _ (supplier.answer? _ s)) w.handles rfl (runJob_changes listed)
  | straggle k g answer started given_up unsettled =>
    exact .changed (.straggle k g answer) w.handles rfl (Change.straggle given_up rfl).chain
  | answer waits calls => exact .answered waits calls
  | pass now later => exact .passed now w.handles later
  | look i held => exact .passed w.now _ (Nat.le_refl _)
  | forget i gone => exact .passed w.now _ (Nat.le_refl _)

end TaskWatch.Cache
