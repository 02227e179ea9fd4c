import TaskWatch.Board.Session
import TaskWatch.Proofs.Cache.Post
import TaskWatch.Proofs.Time.Passing

/-! Runs of a session, step by step.

    A session is freer here than any one run of the program: of the jobs and errands that are due any may
    come first, the clock moves on as it likes, and whatever the keys can ask of the board may be asked at
    any time. What the program does (`Operation`) is a chain of such steps, and of some of them only
    (`Progress`): it handles keys, looks at the queries, does all that is due, lets time pass, and takes
    everything off the line. -/

namespace TaskWatch.Session

open Cache Board Source

variable {s s' : Session}

/-- The piece of work can be done at the present moment. -/
def Due (s : Session) : Work → Prop
  | .tasks j => j ∈ s.board.tasksCache.agenda ∧ j.isDue s.now = true
  | .metrics j => j ∈ s.board.metricsCache.agenda ∧ j.isDue s.now = true
  | .errand e => s.errands.head? = some e

/-- One step of a session. -/
inductive Step : Session → Session → Prop
  | start {s : Session} : Step s (s.withBoard (s.board.start s.instant))
  | sync {s : Session} : Step s (s.withBoard s.board.sync.1)
  /-- An event is handled. -/
  | handle {s : Session} (h : Happening) : Step s (s.handle h).1
  /-- The outcome that is first in line is taken off it and handled. -/
  | take {s : Session} {outcome : Created} {rest : List Created} (first : s.line = outcome :: rest) :
      Step s ({ s with line := rest }.handle (.created outcome)).1
  | act {s : Session} (a : Action) :
      Step s (s.react (s.board.act s.instant a).1 (s.board.act s.instant a).2).1
  | actOnForm {s : Session} (a : FormAction) :
      Step s (s.react (s.board.actOnForm a).1 (s.board.actOnForm a).2).1
  | work {s : Session} {w : Work} (due : s.Due w) : Step s (s.run w)
  | refill {s : Session} : Step s s.refill
  /-- The clock moves on. -/
  | pass {s : Session} (now : Nat) (later : s.now ≤ now) : Step s { s with now }

/-- From the first session steps can lead to the second. -/
def Leads : Session → Session → Prop := Relation.ReflTransGen Step

/-- A session as it begins, with a selection that may have been restored. -/
def fresh (grace : Nat) (tasksOptions metricsOptions : Options) (selected : Option String)
    (source : Source.Memory) (now : Nat) (origin : Time.Stamp) : Session :=
  { now, board := { Board.make grace tasksOptions metricsOptions with selected }, source, origin }

/-- The sessions that steps can lead to from the beginning, if the source is not told to fail. -/
def Reachable (s : Session) : Prop :=
  ∃ grace tasksOptions metricsOptions selected source now origin, source.failure = none ∧
    (fresh grace tasksOptions metricsOptions selected source now origin).Leads s

/-- The sessions that steps can lead to once the board was started. -/
def Started (s : Session) : Prop :=
  ∃ s₀ : Session, s₀.Reachable ∧ (s₀.withBoard (s₀.board.start s₀.instant)).Leads s

theorem Started.leads (hs : s.Started) (h : s.Leads s') : s'.Started := by
  obtain ⟨s₀, hs₀, before⟩ := hs
  exact ⟨s₀, hs₀, before.trans h⟩

/-- A step that the program takes once the board was started. -/
inductive Progress : Session → Session → Prop
  | key {s : Session} (e : KeyEvent) : Progress s (s.handle (.key e)).1
  | resize {s : Session} : Progress s (s.handle .resize).1
  /-- The board looks at its queries. -/
  | look {s : Session} : Progress s (s.withBoard s.board.sync.1)
  /-- The outcome that is first in line is taken off it and handled. -/
  | take {s : Session} {outcome : Created} {rest : List Created} (first : s.line = outcome :: rest) :
      Progress s ({ s with line := rest }.handle (.created outcome)).1
  | work {s : Session} {w : Work} (due : s.Due w) : Progress s (s.run w)
  | refill {s : Session} : Progress s s.refill
  /-- The clock moves on. -/
  | pass {s : Session} (now : Nat) (later : s.now ≤ now) : Progress s { s with now }

/-- From the first session the program can come to the second. -/
def Proceeds : Session → Session → Prop := Relation.ReflTransGen Progress

theorem Progress.proceeds (progress : Progress s s') : s.Proceeds s' := .single progress

theorem Progress.step (progress : Progress s s') : Step s s' := by
  cases progress with
  | key e => exact .handle (.key e)
  | resize => exact .handle .resize
  | look => exact .sync
  | take first => exact .take first
  | work due => exact .work due
  | refill => exact .refill
  | pass now later => exact .pass now later

theorem Proceeds.leads (h : s.Proceeds s') : s.Leads s' :=
  Relation.ReflTransGen.mono (fun _ _ progress => progress.step) _ _ h

/-! ### Errands -/

/-- Whatever is put in line, the source has nothing to do with it. -/
theorem source_send (outcome : Created) (source : Source.Memory) (s : Session) :
    { s.send outcome with source } = { s with source }.send outcome := by
  unfold send
  split
  · rfl
  · split <;> rfl

theorem source_answered (answer : Except Fault Task) (source : Source.Memory) (s : Session) :
    { s.answered answer with source } = { s with source }.answered answer := by
  cases answer <;> exact source_send _ _ _

/-- An errand that is run asks the source for its request, and the answer is dealt with. -/
theorem runErrand_eq (e : Errand) (s : Session) : s.runErrand e =
    { s with
      source := (s.source.create s.instant e.request).1
      turn := s.turn + 1 }.answered (s.source.create s.instant e.request).2 :=
  source_answered _ _ _

/-! ### Doing what is due -/

/-- Of two pieces of work one is the earlier. -/
theorem earlier_cases (now : Nat) (a b : Option Work) :
    earlier now a b = a ∨ earlier now a b = b := by
  unfold earlier
  split
  · dsimp only
    split
    · exact .inl rfl
    · exact .inr rfl
  · exact .inl rfl
  · exact .inr rfl

/-- What is to be done next can be done. -/
theorem due_of_next {w : Work} (next : s.next? = some w) : s.Due w := by
  unfold next? at next
  have errand (first : s.errands.head?.map Work.errand = some w) : s.Due w := by
    obtain ⟨e, head, rfl⟩ := Option.map_eq_some_iff.mp first
    exact head
  have tasks (first : (s.board.tasksCache.agenda.next? s.now).map Work.tasks = some w) :
      s.Due w := by
    obtain ⟨j, job, rfl⟩ := Option.map_eq_some_iff.mp first
    exact Agenda.next?_due job
  have metrics (first : (s.board.metricsCache.agenda.next? s.now).map Work.metrics = some w) :
      s.Due w := by
    obtain ⟨j, job, rfl⟩ := Option.map_eq_some_iff.mp first
    exact Agenda.next?_due job
  rcases earlier_cases s.now _ _ with first | first <;> rw [first] at next
  · rcases earlier_cases s.now _ _ with first | first <;> rw [first] at next
    · exact tasks next
    · exact metrics next
  · exact errand next

theorem proceeds_runDue : ∀ (fuel : Nat) (s : Session), s.Proceeds (runDue fuel s)
  | 0, _ => .refl
  | fuel + 1, s => by
    unfold runDue
    split
    · exact .refl
    · rename_i w next
      exact (Progress.work (due_of_next next)).proceeds.trans (proceeds_runDue fuel (s.run w))

theorem proceeds_rest (s : Session) : s.Proceeds s.rest :=
  Progress.refill.proceeds.trans (proceeds_runDue _ _)

/-! ### Time -/

theorem now_send (outcome : Created) (s : Session) : (s.send outcome).now = s.now := by
  unfold send
  split
  · rfl
  · split <;> rfl

theorem now_answered (answer : Except Fault Task) (s : Session) :
    (s.answered answer).now = s.now := by
  cases answer <;> exact now_send _ _

theorem now_run (w : Work) (s : Session) : (s.run w).now = s.now := by
  cases w with
  | tasks j => rfl
  | metrics j => rfl
  | errand e =>
    rw [run, runErrand_eq]
    exact now_answered _ _

theorem now_runDue : ∀ (fuel : Nat) (s : Session), (runDue fuel s).now = s.now
  | 0, _ => rfl
  | fuel + 1, s => by
    unfold runDue
    split
    · rfl
    · exact (now_runDue fuel _).trans (now_run _ s)

theorem now_refill (s : Session) : s.refill.now = s.now := by
  unfold refill
  split <;> rfl

theorem now_rest (s : Session) : s.rest.now = s.now := (now_runDue _ _).trans (now_refill s)

/-- As time passes, all that is done is work that is due. -/
theorem kept_proceeds (s : Session) : Time.Kept (fun now t => s.Proceeds t ∧ t.now = now) := by
  rintro _ later t within ⟨before, rfl⟩
  exact ⟨(before.tail (.pass later within)).trans (proceeds_rest _), now_rest _⟩

theorem proceeds_sleep (s : Session) (ms : Nat) : s.Proceeds (s.sleep ms) := by
  have within : s.now ≤ s.now + ms := Nat.le_add_right _ _
  obtain ⟨_, due, before, rfl⟩ := (kept_proceeds s).advance ⟨proceeds_rest s, now_rest s⟩ within
  exact before.tail (.pass _ due)

/-! ### Keys, and taking everything off the line -/

/-- The session after keys were pressed one after another. -/
def press (s : Session) (keys : List KeyCode) : Session :=
  keys.foldl (fun t code => (t.handle (.key { code })).1) s

theorem proceeds_press : ∀ (keys : List KeyCode) (s : Session), s.Proceeds (s.press keys)
  | [], _ => .refl
  | _ :: rest, _ => (Progress.key _).proceeds.trans (proceeds_press rest _)

/-- Outcomes are handled one after another, and none of them puts another in line. -/
theorem proceeds_foldl : ∀ (line : List Created) (s : Session), Proceeds { s with line }
    (line.foldl (fun t outcome => (t.handle (.created outcome)).1) { s with line := [] })
  | [], _ => .refl
  | outcome :: rest, s =>
    (Progress.take (s := { s with line := outcome :: rest }) rfl).proceeds.trans
      (proceeds_foldl rest (s.handle (.created outcome)).1)

theorem proceeds_pump (s : Session) : s.Proceeds s.pump.1 := proceeds_foldl s.line s

/-! ### All that the program does -/

/-- What the program does with a session whose board was started. -/
inductive Operation where
  | key (e : KeyEvent)
  | resize
  /-- The board looks at its queries. -/
  | look
  /-- Everything is taken off the line and handled. -/
  | pump
  /-- All that is due is done. -/
  | rest
  | sleep (ms : Nat)

/-- The session once this was done with it. -/
def operate (s : Session) : Operation → Session
  | .key e => (s.handle (.key e)).1
  | .resize => (s.handle .resize).1
  | .look => s.withBoard s.board.sync.1
  | .pump => s.pump.1
  | .rest => s.rest
  | .sleep ms => s.sleep ms

theorem proceeds_operate (s : Session) (o : Operation) : s.Proceeds (s.operate o) := by
  cases o with
  | key e => exact (Progress.key e).proceeds
  | resize => exact Progress.resize.proceeds
  | look => exact Progress.look.proceeds
  | pump => exact proceeds_pump s
  | rest => exact proceeds_rest s
  | sleep ms => exact proceeds_sleep s ms

end TaskWatch.Session
