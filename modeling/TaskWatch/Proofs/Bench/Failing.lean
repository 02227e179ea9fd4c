import TaskWatch.Proofs.Bench.InStep

/-! Failing producers.

    Somebody subscribes to a query, and from then on time passes, and the query is fetched anew, declared
    stale or looked at. In another run the same is done, and every call takes the same time, but
    producers answer, fail or break down where they do not in the first. Then the same jobs run at the
    same moments in both: failures never disturb polling. What a failure leaves behind is a message, and
    the data from before. -/

namespace TaskWatch.Bench

open Cache

variable {α : Type} {k : Key}

/-- What is done in one run and the other. A call that waits at a gate may be answered differently. -/
inductive Step.Minds (k : Key) : Step α → Step α → Prop
  | refetch : Minds k (.refetch k) (.refetch k)
  | invalidate : Minds k (.invalidate k) (.invalidate k)
  | entry (stale : Nat) : Minds k (.entry k stale) (.entry k stale)
  | resolve (producer call : Nat) (result result' : Except String α) :
    Minds k (.resolve producer call result) (.resolve producer call result')
  | sleep (ms : Nat) : Minds k (.sleep ms) (.sleep ms)
  | jump (ms : Nat) : Minds k (.jump ms) (.jump ms)

/-- The lines on the log that report the start of a fetch, and their moments. -/
def starts (b : Bench α) : List (Nat × Log.Line) :=
  b.log.filter (fun l => l.2.message == "fetch started")

/-- Lines of benches in step report the same starts. -/
theorem starts_eq {log log' : List (Nat × Log.Line)} (same : List.Forall₂ SameLine log log') :
    log.filter (fun l => l.2.message == "fetch started") =
      log'.filter (fun l => l.2.message == "fetch started") := by
  have ending {e : Event} {fetch : Key × Nat} (ends : e.ends? = some fetch) :
      (e.line.message == "fetch started") = false := by
    cases e with
    | committed => rfl
    | failed => rfl
    | _ => exact nomatch ends
  induction same with
  | nil => rfl
  | @cons l l' _ _ alike _ ih =>
    obtain ⟨moment, line⟩ := l
    obtain ⟨moment', line'⟩ := l'
    obtain ⟨rfl, e, e', alike, rfl, rfl⟩ := alike
    rw [List.filter_cons, List.filter_cons, ih]
    rcases alike with rfl | ⟨fetch, ends, ends'⟩
    · rfl
    · simp only [ending ends, ending ends', Bool.false_eq_true, if_false]

namespace InStep

variable {r r' : Run α}

theorem onCache (h : r.bench.InStep k r'.bench) {f f' : Cache α → Run α × Outcome α}
    (does : (f r.bench.cache).1.bench.InStep k (f' r'.bench.cache).1.bench) :
    (r.onCache f).1.bench.InStep k (r'.onCache f').1.bench := by
  unfold Run.onCache
  rw [← h.cache.abandoned]
  split
  · exact h
  · exact does

variable [BEq α]

/-- What is done with both caches alike keeps their benches in step. -/
theorem act (h : r.bench.InStep k r'.bench) {s s' : Step α} (minds : s.Minds k s') :
    (r.act s).1.bench.InStep k (r'.act s').1.bench ∧
      List.Forall₂ (SameRun k) (r.ranDuring s) (r'.ranDuring s') := by
  cases minds with
  | refetch =>
    refine ⟨h.onCache ?_, .nil⟩
    rw [← h.instant]
    rcases h.cache.refetch r.bench.instant k with
      ⟨d, d', done, done', same⟩ | ⟨m, misused, misused'⟩
    · rw [done, done']
      exact h.withCache same (h.devoted.refetch done)
    · rw [misused, misused']
      exact h
  | invalidate =>
    refine ⟨h.onCache ?_, .nil⟩
    rw [← h.instant]
    exact h.withCache h.cache.invalidate h.devoted.invalidate
  | entry stale =>
    refine ⟨h.onCache ?_, .nil⟩
    split <;> split <;> exact h
  | resolve producer call result result' => exact ⟨h.resolve producer call result result', .nil⟩
  | sleep ms => exact h.sleep ms
  | jump ms => exact h.jump ms

theorem stepped {s s' : Step α}
    (acted : (r.act s).1.bench.InStep k (r'.act s').1.bench ∧
      List.Forall₂ (SameRun k) (r.ranDuring s) (r'.ranDuring s')) (hold : Bool) :
    (r.step s hold).1.bench.InStep k (r'.step s' hold).1.bench ∧
      List.Forall₂ (SameRun k) (r.ran s hold) (r'.ran s' hold) := by
  unfold Run.step Run.ran
  obtain ⟨acted, during⟩ := acted
  cases hold with
  | true => exact ⟨acted, List.rel_append during .nil⟩
  | false => exact ⟨acted.rest.1, List.rel_append during acted.rest.2⟩

theorem steps {done done' : List (Step α × Bool)} (h : r.bench.InStep k r'.bench)
    (minds : List.Forall₂ (fun s s' => s.1.Minds k s'.1 ∧ s.2 = s'.2) done done') :
    (r.steps done).bench.InStep k (r'.steps done').bench ∧
      List.Forall₂ (SameRun k) (r.ranOver done) (r'.ranOver done') := by
  induction minds generalizing r r' with
  | nil => exact ⟨h, .nil⟩
  | @cons s s' _ _ same _ ih =>
    obtain ⟨s, hold⟩ := s
    obtain ⟨s', _⟩ := s'
    obtain ⟨minds, rfl⟩ := same
    obtain ⟨first, ran⟩ := stepped (h.act minds) hold
    obtain ⟨rest, later⟩ := ih first
    exact ⟨rest, List.rel_append ran later⟩

omit [BEq α] in
/-- Two benches whose caches nobody has used are in step, if their producers are. -/
theorem fresh (grace now : Nat) (origin : Time.Stamp) {producers producers' : List (Producer α)}
    (same : List.Forall₂ Producer.InStep producers producers') :
    (Run.fresh grace producers now origin).bench.InStep k
      (Run.fresh grace producers' now origin).bench :=
  ⟨rfl, rfl, rfl, ⟨rfl, fun _ => .none, .nil⟩, same, .nil, devoted_fresh grace k⟩

/-- Who subscribes to a query of two such caches has the same done with both. -/
theorem subscribe {grace : Nat} (h : r.bench.InStep k r'.bench) (fresh : r.bench.cache = { grace })
    (fresh' : r'.bench.cache = { grace }) (producer : Nat) (o : Options) :
    (r.act (.subscribe k producer o)).1.bench.InStep k
      (r'.act (.subscribe k producer o)).1.bench := by
  refine h.onCache ?_
  rw [← h.instant, fresh', ← fresh]
  split
  · rename_i c _ done
    refine h.withCache (.refl c) (h.devoted.subscribe ?_ ?_ done)
    · rw [fresh]
    · rw [fresh]
      rfl
  · exact h

end InStep

/-- If the job takes the answer to a call and the call failed, the entry of the query keeps its data and
    dates, and shows the failure. -/
def ShowsFailure (k : Key) (b : Bench α) (j : Job) : Prop :=
  ∀ g i call m, j.duty = .reply g i call → supplier.reply i call b.producers = .error m →
    j.key = k ∧ ∃ e e', b.cache.entry? k = some e ∧ (b.run j).cache.entry? k = some e' ∧
      e'.data = e.data ∧ e'.fetchedAt = e.fetchedAt ∧ e'.updatedAt = e.updatedAt ∧
      e'.phase = .error ∧ e'.error = some m ∧ e'.fetching = false

theorem SameRun.showsFailure {ran ran' : Bench α × Job} (h : SameRun k ran ran') :
    ran.1.ShowsFailure k ran.2 := by
  intro g i call m duty failed
  obtain ⟨own, e, before, after⟩ := h.inStep.devoted.entry_of_failed h.listed duty
  refine ⟨own, e, e.fail m, before, ?_, rfl, rfl, rfl, rfl, rfl, rfl⟩
  rw [← after ran.1.instant m, run, runJob, duty, ← failed]
  rfl

/-- Let somebody subscribe to a query, and then only time pass, or the query be fetched anew, declared
    stale or looked at. If the same is done in another run, where calls take the same time but may be
    answered differently, then fetches are started at the same moments, and the same jobs run at the
    same moments, those that call the producer and those that take its answers among them; and the
    producers count the same. Wherever a call fails, the entry keeps its data and dates, and shows the
    failure. -/
theorem failures_never_disturb_polling [BEq α] {producers producers' : List (Producer α)}
    (same : List.Forall₂ Producer.InStep producers producers') (grace now : Nat)
    (origin : Time.Stamp) (k : Key) (producer : Nat) (o : Options) (hold : Bool)
    {done done' : List (Step α × Bool)}
    (minds : List.Forall₂ (fun s s' => s.1.Minds k s'.1 ∧ s.2 = s'.2) done done') :
    let r := Run.fresh grace producers now origin
    let r' := Run.fresh grace producers' now origin
    let all := (Step.subscribe k producer o, hold) :: done
    let all' := (Step.subscribe k producer o, hold) :: done'
    (r.steps all).bench.starts = (r'.steps all').bench.starts ∧
    (r.ranOver all).map (fun ran => (ran.1.now, ran.2)) =
      (r'.ranOver all').map (fun ran => (ran.1.now, ran.2)) ∧
    (r.steps all).bench.probes = (r'.steps all').bench.probes ∧
    ∀ ran ∈ r.ranOver all, ran.1.ShowsFailure k ran.2 := by
  intro r r' all all'
  have begun : r.bench.InStep k r'.bench := .fresh grace now origin same
  obtain ⟨first, ran⟩ := InStep.stepped ⟨begun.subscribe rfl rfl producer o, .nil⟩ hold
  obtain ⟨rest, later⟩ := first.steps minds
  have runs : List.Forall₂ (SameRun k) (r.ranOver all) (r'.ranOver all') :=
    List.rel_append ran later
  refine ⟨starts_eq rest.log, ?_, ?_, ?_⟩
  · exact map_eq_of_forall₂ (runs.imp fun _ _ alike => Prod.ext alike.inStep.now alike.job)
  · exact map_eq_of_forall₂ (rest.producers.imp fun _ _ alike => alike.probe)
  · exact ((List.forall₂_and_left _ _).mp
      (runs.imp fun _ _ alike => ⟨alike.showsFailure, alike⟩)).1

/-- In the second run the first call fails and the second breaks down. The query is polled at 100 all the
    same, as in the first. -/
theorem polled_after_failures :
    let k : Key := .single "tasks"
    let good : List (Producer Nat) := [{ supply := .script [⟨.ok 1, 10⟩, ⟨.ok 2, 10⟩] }]
    let bad : List (Producer Nat) := [{ supply := .script [⟨.err "down", 10⟩, ⟨.breakdown, 10⟩] }]
    let all : List (Step Nat × Bool) := [(.subscribe k 0 { interval := 100 }, false),
      (.jump 10, false), (.jump 90, false), (.jump 10, false)]
    let r := Run.fresh 300000 good 0 Time.benchStart
    let r' := Run.fresh 300000 bad 0 Time.benchStart
    (r.ranOver all).map (fun ran => (ran.1.now, ran.2.number)) =
      [(0, 1), (10, 1), (100, 2), (100, 3), (110, 3)] ∧
    (r'.ranOver all).map (fun ran => (ran.1.now, ran.2.number)) =
      [(0, 1), (10, 1), (100, 2), (100, 3), (110, 3)] ∧
    ∀ ran ∈ r'.ranOver all, ran.1.ShowsFailure k ran.2 := by
  intro k good bad all r r'
  have same : List.Forall₂ Producer.InStep bad good := .cons ⟨.script rfl, rfl, .nil⟩ .nil
  have minds : List.Forall₂ (fun s s' : Step Nat × Bool => s.1.Minds k s'.1 ∧ s.2 = s'.2)
      [(.jump 10, false), (.jump 90, false), (.jump 10, false)]
      [(.jump 10, false), (.jump 90, false), (.jump 10, false)] :=
    .cons ⟨.jump 10, rfl⟩ (.cons ⟨.jump 90, rfl⟩ (.cons ⟨.jump 10, rfl⟩ .nil))
  obtain ⟨-, jobs, -, fails⟩ := failures_never_disturb_polling same 300000 0 Time.benchStart k 0
    { interval := 100 } false minds
  have moments : (r.ranOver all).map (fun ran => (ran.1.now, ran.2.number)) =
      [(0, 1), (10, 1), (100, 2), (100, 3), (110, 3)] := by decide
  refine ⟨moments, ?_, fails⟩
  have moments' := congrArg (List.map fun (now, j) => (now, j.number)) jobs
  rw [List.map_map, List.map_map] at moments'
  exact moments'.trans moments

end TaskWatch.Bench
