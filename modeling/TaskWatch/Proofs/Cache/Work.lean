import TaskWatch.Proofs.Cache.Schedule

/-! What is left to be done at a moment.

    A job that is due can have others follow at the same moment: a timer has a fetch begun, which
    calls its producer, and a call can be answered at once. Each job is given a weight, that of a
    job being higher than that of all that it leaves. So the weight of all that is due goes down
    with every job that is run, and after three times as many runs as there were jobs nothing is due
    any more. -/

namespace TaskWatch.Cache

variable {α : Type} {now : Time.Instant} {k : Key} {c : Cache α} {j : Job}

/-- How many jobs are run at most, one after another, for one that is due. -/
def Job.weight (j : Job) : Nat :=
  match j.duty with
  | .poll _ => 3
  | .call _ _ => 2
  | _ => 1

theorem Job.weight_le (j : Job) : j.weight ≤ 3 := by
  unfold weight
  split <;> decide

theorem Job.weight_pos (j : Job) : 0 < j.weight := by
  unfold weight
  split <;> decide

namespace Agenda

variable {agenda : Agenda} {begun moment : Nat}

/-- How much is to be done at a moment. -/
def work (moment : Nat) : Agenda → Nat
  | [] => 0
  | j :: rest => (if j.isDue moment then j.weight else 0) + work moment rest

theorem work_append (before after : Agenda) :
    work moment (before ++ after) = work moment before + work moment after := by
  induction before with
  | nil => simp [work]
  | cons j rest ih =>
    rw [List.cons_append, work, work, ih]
    omega

theorem work_singleton : work moment [j] = if j.isDue moment then j.weight else 0 := by
  rw [work, work, Nat.add_zero]

theorem work_cons (j : Job) (agenda : Agenda) :
    work moment (j :: agenda) = work moment [j] + work moment agenda :=
  work_append [j] agenda

theorem work_singleton_le : work moment [j] ≤ j.weight := by
  rw [work_singleton]
  split
  · exact Nat.le_refl _
  · exact Nat.zero_le _

theorem work_le (agenda : Agenda) (moment : Nat) : agenda.work moment ≤ 3 * agenda.length := by
  induction agenda with
  | nil => exact Nat.le_refl _
  | cons j rest ih =>
    have first : work moment [j] ≤ 3 := Nat.le_trans work_singleton_le j.weight_le
    rw [work_cons, List.length_cons]
    omega

/-- As long as a job is due, there is work. -/
theorem work_pos (listed : j ∈ agenda) (due : j.isDue moment = true) : 0 < agenda.work moment := by
  obtain ⟨before, after, rfl⟩ := List.append_of_mem listed
  have positive := j.weight_pos
  rw [work_append, work_cons, work_singleton, if_pos due]
  omega

/-- Taking a job off or changing it leaves the jobs of other numbers alone. -/
theorem remove_of_absent {n : Nat} (absent : ∀ i ∈ agenda, i.number ≠ n) :
    agenda.remove n = agenda :=
  List.filter_eq_self.mpr fun i hi => bne_iff_ne.mpr (absent i hi)

theorem change_of_absent {n : Nat} (f : Job → Job) (absent : ∀ i ∈ agenda, i.number ≠ n) :
    agenda.change n f = agenda :=
  (List.map_congr_left fun i hi => if_neg (absent i hi)).trans (List.map_id _)

/-- A job stands between jobs of other numbers. -/
theorem Numbered.split (inv : agenda.Numbered begun) (listed : j ∈ agenda) :
    ∃ before after : Agenda, agenda = before ++ j :: after ∧
      agenda.remove j.number = before ++ after ∧
      ∀ f, agenda.change j.number f = before ++ f j :: after := by
  obtain ⟨before, after, rfl⟩ := List.append_of_mem listed
  have distinct := inv.distinct
  rw [List.map_append, List.map_cons, List.nodup_middle, List.nodup_cons,
    ← List.map_append] at distinct
  have others : ∀ i ∈ before ++ after, i.number ≠ j.number := fun i hi same =>
    distinct.1 (same ▸ List.mem_map_of_mem hi)
  obtain ⟨left, right⟩ := List.forall_mem_append.mp others
  refine ⟨before, after, rfl, ?_, fun f => ?_⟩
  · have removed : Agenda.remove (before ++ j :: after) j.number =
        Agenda.remove before j.number ++ Agenda.remove after j.number := by
      simp [Agenda.remove]
    rw [removed, remove_of_absent left, remove_of_absent right]
  · have changed : Agenda.change (before ++ j :: after) j.number f =
        Agenda.change before j.number f ++ f j :: Agenda.change after j.number f := by
      simp [Agenda.change]
    rw [changed, change_of_absent f left, change_of_absent f right]

/-- A job that was due is taken off. -/
theorem work_remove (inv : agenda.Numbered begun) (listed : j ∈ agenda)
    (due : j.isDue moment = true) :
    (agenda.remove j.number).work moment + j.weight = agenda.work moment := by
  obtain ⟨before, after, whole, removed, -⟩ := inv.split listed
  have first : work moment [j] = j.weight := by rw [work_singleton, if_pos due]
  rw [removed, whole, work_append, work_append, work_cons]
  omega

/-- A job that was due is changed. -/
theorem work_change (inv : agenda.Numbered begun) (listed : j ∈ agenda)
    (due : j.isDue moment = true) (f : Job → Job) :
    (agenda.change j.number f).work moment + j.weight ≤ agenda.work moment + (f j).weight := by
  obtain ⟨before, after, whole, -, changed⟩ := inv.split listed
  have first : work moment [j] = j.weight := by rw [work_singleton, if_pos due]
  have second : work moment [f j] ≤ (f j).weight := work_singleton_le
  rw [changed, whole, work_append, work_append, work_cons j, work_cons (f j)]
  omega

end Agenda

/-! ### Timers that are due again later -/

/-- A timer that keeps its grid is due again a period later, and one that is too late for that a
    period from now. -/
theorem nextTick_cases (moment period due : Nat) :
    nextTick moment period due = due + period ∨
      due < moment ∧ nextTick moment period due = moment + period := by
  unfold nextTick
  split
  · exact .inr ⟨by omega, rfl⟩
  · exact .inl rfl

/-- When a timer has fired, its deadline is ahead. -/
theorem later_of_ticks {period moment : Nat} (periodic : period ≠ 0) :
    ∀ (fuel due : Nat), moment ≤ due + fuel → moment < (ticks moment period fuel due).2
  | 0, due, enough => by
    rcases nextTick_cases moment period due with kept | ⟨late, -⟩
    · rw [ticks, kept]
      omega
    · omega
  | fuel + 1, due, enough => by
    unfold ticks
    dsimp only
    split
    · rename_i passed
      refine later_of_ticks periodic fuel _ ?_
      rcases nextTick_cases moment period due with kept | ⟨-, fresh⟩ <;> omega
    · rename_i ahead
      exact Nat.lt_of_not_le ahead

/-! ### What one job leaves -/

theorem agenda_settle {g : Nat} {result : Except String α} :
    (c.settle now k g result).agenda = c.agenda := by
  unfold settle
  split
  · rfl
  · unfold commit
    split
    · rfl
    · split
      · cases result <;> rfl
      · rfl

theorem agenda_collect {token : Nat} : (c.collect k token).agenda = c.agenda := by
  unfold collect
  split
  · rfl
  · split <;> rfl

/-- The entry of the query, if there is one, has a fetch in flight. -/
def Busy (c : Cache α) (k : Key) : Prop := ∀ s, c.slots.find? k = some s → s.inFlight ≠ none

theorem scheduledFetch_busy (busy : c.Busy k) :
    c.scheduledFetch now k = c.report (.skipped k) := by
  have joins : c.startFetch now k false = (c, false) := by
    cases hs : c.slots.find? k with
    | none => exact startFetch_vacant hs false
    | some s =>
      obtain ⟨f, flying⟩ := Option.ne_none_iff_exists'.mp (busy s hs)
      exact startFetch_joined hs flying
  rw [scheduledFetch, joins]
  rfl

/-- A fetch is begun where none is in flight. -/
theorem scheduledFetch_idle (now : Time.Instant) (idle : ¬ c.Busy k) :
    (c.scheduledFetch now k).Busy k ∧
      ∃ j, j.weight = 2 ∧ (c.scheduledFetch now k).agenda = c.agenda ++ [j] := by
  obtain ⟨s, there, idle⟩ : ∃ s, c.slots.find? k = some s ∧ s.inFlight = none := by
    simpa [Busy] using idle
  have launched : c.scheduledFetch now k = c.launch now k s := by
    rw [scheduledFetch, startFetch_idle there idle]
    rfl
  rw [launched]
  refine ⟨fun s' there' => ?_, _, rfl, rfl⟩
  rw [← Option.some.inj ((find?_setSlot_self ..).symm.trans there')]
  simp [Slot.publish]

/-- Of several scheduled fetches one is begun at most. -/
theorem work_repeated (now : Time.Instant) (k : Key) (n : Nat) (c : Cache α) :
    (repeated (scheduledFetch now k) n c).agenda.work now.elapsed ≤ c.agenda.work now.elapsed + 2 ∧
      (c.Busy k → (repeated (scheduledFetch now k) n c).agenda = c.agenda) := by
  induction n generalizing c with
  | zero => exact ⟨Nat.le_add_right _ _, fun _ => rfl⟩
  | succ n ih =>
    rw [repeated]
    by_cases busy : c.Busy k
    · have still : (c.report (.skipped k)).Busy k := busy
      rw [scheduledFetch_busy busy]
      exact ⟨(ih _).1, fun _ => (ih _).2 still⟩
    · obtain ⟨busy', j, weight, begun⟩ := scheduledFetch_idle now busy
      have single : Agenda.work now.elapsed [j] ≤ j.weight := Agenda.work_singleton_le
      refine ⟨?_, fun busy' => (busy busy').elim⟩
      rw [(ih _).2 busy', begun, Agenda.work_append]
      omega

/-- A call leaves its answer to be taken. -/
theorem work_placeCall {σ : Type} (supplier : Supplier σ α) (state : σ) {begun g producer : Nat}
    (inv : c.agenda.Numbered begun) (listed : j ∈ c.agenda) (due : j.isDue now.elapsed = true)
    (duty : j.duty = .call g producer) :
    (c.placeCall supplier now j g producer state).1.agenda.work now.elapsed <
      c.agenda.work now.elapsed := by
  have weight : j.weight = 2 := by rw [Job.weight, duty]
  let waiting (j : Job) : Job := { j with
    duty := .reply g producer (supplier.call producer state).2.1
    due := (supplier.call producer state).2.2.map (fun d => now.elapsed + d) }
  have less : (waiting j).weight = 1 := rfl
  have changed := Agenda.work_change inv listed due waiting
  have called : (c.placeCall supplier now j g producer state).1.agenda =
      c.agenda.change j.number waiting := rfl
  rw [called]
  omega

/-- A timer leaves one fetch to be called for, and is itself due again later. -/
theorem work_tick {begun period : Nat} (inv : c.agenda.Numbered begun) (listed : j ∈ c.agenda)
    (due : j.isDue now.elapsed = true) (duty : j.duty = .poll period) (periodic : period ≠ 0) :
    (c.tick now j period).agenda.work now.elapsed < c.agenda.work now.elapsed := by
  obtain ⟨d, hd, passed⟩ := (Option.any_eq_true _ _).mp due
  obtain ⟨n, following, fired⟩ : ∃ n following,
      ticks now.elapsed period (now.elapsed - d) d = (n, following) := ⟨_, _, rfl⟩
  have later : now.elapsed < following := by
    have ahead : now.elapsed < (ticks now.elapsed period (now.elapsed - d) d).2 :=
      later_of_ticks periodic _ d (by omega)
    rwa [fired] at ahead
  let waiting : Job := { j with due := some following, turn := now.turn }
  have ticked : c.tick now j period = repeated (scheduledFetch now j.key) n
      { c with agenda := c.agenda.remove j.number ++ [waiting] } := by
    rw [tick, hd, Option.getD_some, fired]
  have ahead : Agenda.work now.elapsed [waiting] = 0 := by
    rw [Agenda.work_singleton, if_neg]
    simpa [Job.isDue, waiting] using later
  have removed := Agenda.work_remove inv listed due
  have weight : j.weight = 3 := by rw [Job.weight, duty]
  have most := (work_repeated now j.key n
    { c with agenda := c.agenda.remove j.number ++ [waiting] }).1
  dsimp only at most
  rw [Agenda.work_append] at most
  rw [ticked]
  omega

/-- With every job that is run there is less to be done. -/
theorem work_runJob {σ : Type} (supplier : Supplier σ α) (state : σ) {begun : Nat}
    (inv : c.agenda.Numbered begun) (listed : j ∈ c.agenda) (due : j.isDue now.elapsed = true)
    (periodic : ∀ period, j.duty = .poll period → period ≠ 0) :
    (c.runJob supplier now j state).1.agenda.work now.elapsed < c.agenda.work now.elapsed := by
  have without : (c.without j).agenda.work now.elapsed < c.agenda.work now.elapsed := by
    have removed := Agenda.work_remove inv listed due
    have positive := j.weight_pos
    rw [show (c.without j).agenda = c.agenda.remove j.number from rfl]
    omega
  unfold runJob
  cases duty : j.duty with
  | call g producer => exact work_placeCall supplier state inv listed due duty
  | reply g producer call =>
    dsimp only
    rwa [agenda_settle]
  | release producer call => exact without
  | poll period => exact work_tick inv listed due duty (periodic period duty)
  | collect token =>
    dsimp only
    rwa [agenda_collect]

/-- In a reachable course there is less to be done with every job that is run. -/
theorem Course.Reachable.work_runJob {w : Course α} (hw : w.Reachable) {σ : Type}
    (supplier : Supplier σ α) (state : σ) (listed : j ∈ w.cache.agenda)
    (due : j.isDue w.now.elapsed = true) :
    (w.cache.runJob supplier w.now j state).1.agenda.work w.now.elapsed <
      w.cache.agenda.work w.now.elapsed := by
  refine Cache.work_runJob supplier state hw.staffed.numbered listed due fun period duty => ?_
  obtain ⟨s, -, shortest, -⟩ := hw.of_timer listed duty
  exact shortest.1.1

end TaskWatch.Cache
