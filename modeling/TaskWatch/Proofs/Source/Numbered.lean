import Mathlib.Data.List.Nodup
import TaskWatch.Proofs.Text.Digits
import TaskWatch.Source.Memory

/-! The ids of the tasks that a source in memory holds.

    New tasks are numbered on from the number of tasks that the source began with, and whether one
    of these has such a number already is not looked at. So the tasks are told apart by their ids
    as long as no number that was given is that of a task there was at the beginning. -/

namespace TaskWatch.Source.Memory

variable {ts : List Task} {m : Memory}

/-- The id of the task with that number. -/
def taskId (k : Nat) : String := "ts_" ++ toString k

/-- What can be done to a source that changes it. -/
inductive Deed where
  | create (now : Time.Instant) (r : Request)
  /-- It is told to fail, or to fail no longer. -/
  | fail (message : Option String)

/-- The source once it is done. -/
def after (m : Memory) : Deed → Memory
  | .create now r => (m.create now r).1
  | .fail message => { m with failure := message }

/-- What the source holds are the tasks that it began with, and then tasks that are numbered on. -/
structure NumbersOn (ts : List Task) (m : Memory) : Prop where
  tasks : ∃ made, m.tasks = ts ++ made ∧
    made.map (·.id) = (List.range' (ts.length + 1) made.length).map taskId
  next : m.nextId = m.tasks.length + 1

theorem taskId_injective : Function.Injective taskId := fun j k same => by
  have digits : Text.digits j = Text.digits k := by
    simpa [Text.digits] using congrArg String.toList ((String.append_right_inj _).mp same)
  rw [← Text.number_digits j, digits, Text.number_digits]

/-! ### A task is created -/

theorem create_failing {message : String} (failing : m.failure = some message) (now : Time.Instant)
    (r : Request) : m.create now r =
      ({ m with createCalls := m.createCalls + 1 }, .error (.unavailable message)) := by
  rw [create, failing]

theorem create_working (working : m.failure = none) (now : Time.Instant) (r : Request) :
    m.create now r =
      ({ m with
          tasks := m.tasks ++ [r.toTask m.freshId now.wall]
          nextId := m.nextId + 1
          createCalls := m.createCalls + 1 }, .ok (r.toTask m.freshId now.wall)) := by
  rw [create, working]

theorem create_ok_iff (now : Time.Instant) (r : Request) :
    (∃ t, (m.create now r).2 = .ok t) ↔ m.failure = none := by
  cases state : m.failure with
  | none => simp [create_working state]
  | some message => simp [create_failing state]

/-! ### A run of the source -/

theorem numbersOn_ofTasks (ts : List Task) (tasksDelay metricsDelay : Nat) :
    NumbersOn ts (ofTasks ts tasksDelay metricsDelay) :=
  ⟨⟨[], (List.append_nil ts).symm, rfl⟩, rfl⟩

namespace NumbersOn

theorem after (numbersOn : NumbersOn ts m) (deed : Deed) : NumbersOn ts (m.after deed) := by
  cases deed with
  | fail message => exact ⟨numbersOn.tasks, numbersOn.next⟩
  | create now r =>
    cases state : m.failure with
    | some message =>
      rw [Memory.after, create_failing state]
      exact ⟨numbersOn.tasks, numbersOn.next⟩
    | none =>
      obtain ⟨made, tasks, ids⟩ := numbersOn.tasks
      rw [Memory.after, create_working state]
      refine ⟨⟨made ++ [r.toTask m.freshId now.wall], ?_, ?_⟩, ?_⟩
      · show m.tasks ++ _ = _
        rw [tasks, List.append_assoc]
      · have number : m.nextId = ts.length + 1 + made.length := by
          rw [numbersOn.next, tasks, List.length_append]
          omega
        rw [List.map_append, ids, List.length_append, List.length_singleton, List.range'_1_concat,
          List.map_append, ← number]
        rfl
      · simp [numbersOn.next]

theorem run (numbersOn : NumbersOn ts m) (deeds : List Deed) :
    NumbersOn ts (deeds.foldl Memory.after m) := by
  induction deeds generalizing m with
  | nil => exact numbersOn
  | cons deed deeds ih => exact ih (numbersOn.after deed)

/-- The ids are distinct just when no number that was given was taken before. -/
theorem nodup_iff (numbersOn : NumbersOn ts m) (distinct : (ts.map (·.id)).Nodup) :
    (m.tasks.map (·.id)).Nodup ↔
      ∀ t ∈ ts, ∀ k, ts.length < k → k ≤ m.tasks.length → t.id ≠ taskId k := by
  obtain ⟨made, tasks, ids⟩ := numbersOn.tasks
  have given : ((List.range' (ts.length + 1) made.length).map taskId).Nodup :=
    List.Nodup.map taskId_injective List.nodup_range'
  rw [tasks, List.map_append, ids, List.nodup_append, List.length_append]
  constructor
  · rintro ⟨-, -, apart⟩ t listed k above below
    have inside : k ∈ List.range' (ts.length + 1) made.length := by
      rw [List.mem_range'_1]
      omega
    exact apart _ (List.mem_map_of_mem listed) _ (List.mem_map_of_mem inside)
  · refine fun apart => ⟨distinct, given, fun id listed id' listed' => ?_⟩
    obtain ⟨t, held, rfl⟩ := List.mem_map.mp listed
    obtain ⟨k, inside, rfl⟩ := List.mem_map.mp listed'
    rw [List.mem_range'_1] at inside
    exact apart t held k (by omega) (by omega)

end NumbersOn

/-- However often tasks are created, and whether or not the source fails at times: the ids of its
    tasks are distinct, as they were at the beginning, just when none of the tasks at the beginning
    had one of the numbers that were given since. A task that is created waits, says what was asked
    for, and stands after the others. A source that fails creates none, and neither its tasks nor the
    next number change. -/
theorem ids_distinct_unless_taken {ts : List Task} (distinct : (ts.map (·.id)).Nodup)
    (tasksDelay metricsDelay : Nat) (deeds : List Deed) :
    let m := deeds.foldl after (ofTasks ts tasksDelay metricsDelay)
    ((m.tasks.map (·.id)).Nodup ↔
      ∀ t ∈ ts, ∀ k, ts.length < k → k ≤ m.tasks.length → t.id ≠ taskId k) ∧
    ∀ now r, ((∃ t, (m.create now r).2 = .ok t) ↔ m.failure = none) ∧
      (∀ t, (m.create now r).2 = .ok t → (m.create now r).1.tasks = m.tasks ++ [t] ∧
        t.status = .pending ∧ t.retries = 0 ∧
        t.name = r.name ∧ t.kind = r.kind ∧ t.priority = r.priority) ∧
      ∀ fault, (m.create now r).2 = .error fault →
        (m.create now r).1.tasks = m.tasks ∧ (m.create now r).1.nextId = m.nextId := by
  intro m
  have numbersOn : NumbersOn ts m := (numbersOn_ofTasks ts tasksDelay metricsDelay).run deeds
  refine ⟨numbersOn.nodup_iff distinct, fun now r => ⟨create_ok_iff now r, fun t created => ?_,
    fun fault failed => ?_⟩⟩
  · have working : m.failure = none := (create_ok_iff now r).mp ⟨t, created⟩
    rw [create_working working] at created ⊢
    obtain rfl := Except.ok.inj created
    exact ⟨rfl, rfl, rfl, rfl, rfl, rfl⟩
  · cases state : m.failure with
    | none => simp [create_working state] at failed
    | some message => simp [create_failing state]

/-- Five tasks have the numbers up to five, so the two that are created before and after a failure
    are told apart from them. -/
theorem two_tasks_numbered_on :
    let now : Time.Instant := .after Time.benchStart 0 0
    let r : Request := ⟨"Rotate Keys", .maintenance, 7⟩
    let deeds := [.create now r, .fail (some "down"), .create now r, .fail none, .create now r]
    let m := deeds.foldl after (ofTasks sampleTasks 0 0)
    m.tasks.map (·.id) = ["ts_1", "ts_2", "ts_3", "ts_4", "ts_5", "ts_6", "ts_7"] ∧
      (m.tasks.map (·.id)).Nodup ∧
      ∃ t, (m.create now r).1.tasks = m.tasks ++ [t] ∧ t.name = r.name := by
  intro now r deeds m
  have distinct : (sampleTasks.map (·.id)).Nodup := by decide +kernel
  obtain ⟨apart, created⟩ := ids_distinct_unless_taken distinct 0 0 deeds
  obtain ⟨working, appended, -⟩ := created now r
  refine ⟨by decide +kernel, apart.mpr fun t listed k above below => ?_, ?_⟩
  · have free : ∀ t ∈ sampleTasks, t.id ≠ taskId 6 ∧ t.id ≠ taskId 7 := by decide +kernel
    have length : m.tasks.length = 7 := by decide +kernel
    have above : 5 < k := above
    have below : k ≤ 7 := length ▸ below
    obtain rfl | rfl : k = 6 ∨ k = 7 := by omega
    · exact (free t listed).1
    · exact (free t listed).2
  · obtain ⟨t, answer⟩ := working.mpr (show m.failure = none from rfl)
    obtain ⟨tasks, -, -, name, -⟩ := appended t answer
    exact ⟨t, tasks, name⟩

/-- A source begins with one task, which has the number of the second. The next one that is created
    is given the same id. -/
theorem second_task_named_like_first :
    let first : Task := ⟨"ts_2", "Send Digest", .email, .pending, 5, 0, Time.benchStart⟩
    let m := (ofTasks [first] 0 0).after
      (.create (.after Time.benchStart 0 0) ⟨"Rotate Keys", .maintenance, 7⟩)
    ([first].map (·.id)).Nodup ∧ m.tasks.map (·.id) = ["ts_2", "ts_2"] ∧
      ¬ (m.tasks.map (·.id)).Nodup := by
  decide +kernel

end TaskWatch.Source.Memory
