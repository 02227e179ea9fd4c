import Mathlib.Data.List.Forall2
import Mathlib.Data.List.Perm.Basic
import TaskWatch.Proofs.Board.UpToDate
import TaskWatch.Proofs.Form.Rules

/-! Every request that reaches the source is what a form held when it was submitted.

    A session is kept together with its account (`Session.Account`): what the open form held at each
    submit that was accepted, and the requests that the source was asked for. These are not read off the
    errands: the errand is run with a source that lists what it is asked for (`listing`), and which is
    otherwise like the one there is. A request is an errand from the submit until it is passed on, and
    the errands may be run in any order. So at any time the calls of the source together with the
    errands that are left are the requests of all submits, each once. What the source does meanwhile, and
    what it answers, is left open. -/

namespace TaskWatch

open Board Source Relation

variable {b : Board} {now : Time.Instant} {r : Request}

/-! ### What makes a request -/

namespace Board

/-- A submit makes a request of a form that keeps the rules and is not submitting. -/
theorem submit_creates (made : b.submit.2 = .create r) :
    ∃ e, b.form = some e ∧ e.submitting = false ∧ e.form.validate = .ok r := by
  unfold submit at made
  split at made
  · simp at made
  · rename_i e opened
    split at made
    · simp at made
    · rename_i idle
      split at made
      · simp at made
      · rename_i valid
        obtain rfl := Reaction.create.inj made
        exact ⟨e, opened, by simpa using idle, valid⟩

/-- No key of the form makes a request but that for a submit. -/
theorem actOnForm_creates {a : FormAction} (made : (b.actOnForm a).2 = .create r) :
    ∃ e, b.form = some e ∧ e.submitting = false ∧ e.form.validate = .ok r := by
  cases a with
  | submit => exact submit_creates made
  | _ => simp [actOnForm] at made

/-- No key of the board makes a request. -/
theorem act_quiet (now : Time.Instant) (a : Action) (b : Board) : (b.act now a).2 ≠ .create r := by
  cases a <;> simp [act]

theorem handle_creates {h : Happening} (made : (b.handle now h).2 = .create r) :
    ∃ e, b.form = some e ∧ e.submitting = false ∧ e.form.validate = .ok r := by
  cases h with
  | key e =>
    unfold handle at made
    dsimp only at made
    split at made
    · split at made
      · exact actOnForm_creates made
      · simp at made
    · split at made
      · exact (act_quiet now _ b made).elim
      · simp at made
  | resize => simp [handle] at made
  | created outcome => simp [handle] at made

/-- While the form is open its keys are handled by it. -/
theorem handle_submit {e : Editor} {key : KeyEvent} (opened : b.form = some e)
    (meaning : formAction? key = some .submit) : b.handle now (.key key) = b.submit := by
  simp [handle, opened, meaning, actOnForm]

/-- A form that is submitting is left alone. -/
theorem submit_submitting {e : Editor} (opened : b.form = some e) (flag : e.submitting = true) :
    b.submit = (b, .none) := by
  unfold submit
  rw [opened]
  exact if_pos flag

/-- A form that breaks rules is told all that it breaks, and keeps whatever else it has. -/
theorem submit_rejected {e : Editor} (opened : b.form = some e) (idle : e.submitting = false)
    (invalid : ∀ r, ¬ e.form.Makes r) : b.submit.2 = .none ∧
      b.submit.1.form = some { e with violations := some e.form.violations } := by
  unfold submit
  rw [opened]
  dsimp only
  rw [if_neg (by simp [idle])]
  split
  · rename_i rejected
    rw [(Form.validate_error rejected).1]
    exact ⟨rfl, rfl⟩
  · rename_i r valid
    exact (invalid r (Form.validate_ok.mp valid)).elim

/-- A form that keeps the rules is submitting from now on. -/
theorem submit_accepted {e : Editor} (opened : b.form = some e) (idle : e.submitting = false)
    (makes : e.form.Makes r) : b.submit =
      ({ b with form := some { e with violations := none, submitting := true } }, .create r) := by
  unfold submit
  rw [opened]
  dsimp only
  rw [if_neg (by simp [idle]), Form.validate_ok.mpr makes]

end Board

/-! ### Accounts -/

namespace Session

variable {s s' : Session}

/-- What the open form holds, if a request is made of it. -/
def held (b : Board) : Reaction → List Form
  | .create _ => (b.form.map (·.form)).toList
  | _ => []

/-- A session, and an account of what was submitted and passed on. -/
structure Account where
  session : Session
  /-- What the open form held at each submit that was accepted. -/
  accepted : List Form := []
  /-- What the source was asked for. -/
  calls : List Request := []

/-- Tasks are created as before, and their requests are listed. -/
def listing {σ : Type} (create : Time.Instant → Request → σ → σ × Except Source.Fault Task) :
    Time.Instant → Request → σ × List Request → (σ × List Request) × Except Source.Fault Task :=
  fun now r (source, requests) =>
    let (source, answer) := create now r source
    ((source, requests ++ [r]), answer)

/-- A source that lists what it is asked for is asked for the request of the errand, once, and to be
    listed changes nothing. -/
theorem ask_listing {σ : Type}
    (create : Time.Instant → Request → σ → σ × Except Source.Fault Task) (e : Errand) (source : σ)
    (requests : List Request) (s : Session) :
    s.ask (listing create) e (source, requests) =
      (((s.ask create e source).1, requests ++ [e.request]), (s.ask create e source).2) := rfl

namespace Account

variable {a a' : Account}

/-- The board has become another, and may have made a request. -/
def react (b : Board) (r : Reaction) (a : Account) : Account :=
  { a with
    session := (a.session.react b r).1
    accepted := a.accepted ++ held a.session.board r }

/-- An event is handled. -/
def handle (h : Happening) (a : Account) : Account :=
  let (b, r) := a.session.board.handle a.session.instant h
  a.react b r

/-- The errand in this place is run, and the source lists what it is asked for. -/
def call (i : Nat) (e : Errand) (a : Account) : Account :=
  let s := { a.session with errands := a.session.errands.eraseIdx i }
  { a with
    session := s.runErrand e
    calls := (s.ask (listing Memory.create) e (s.source, a.calls)).1.2 }

/-- One step of a session with its account. -/
inductive Step : Account → Account → Prop
  | handle {a : Account} (h : Happening) : Step a (a.handle h)
  | actOnForm {a : Account} (action : FormAction) :
    Step a (a.react (a.session.board.actOnForm action).1 (a.session.board.actOnForm action).2)
  | call {a : Account} (i : Nat) {e : Errand} (waits : a.session.errands[i]? = some e) :
    Step a (a.call i e)
  /-- The source is another than before, but for the calls it was asked for tasks with. -/
  | source {a : Account} (source : Memory)
    (calls : source.createCalls = a.session.source.createCalls) :
    Step a { a with session := { a.session with source } }
  /-- The session does anything else. -/
  | rest {a : Account} {s : Session} (step : Session.Step a.session s)
    (errands : s.errands = a.session.errands)
    (calls : s.source.createCalls = a.session.source.createCalls) : Step a { a with session := s }

/-- The accounts that steps can lead to from the beginning, if nothing was asked of the source
    before. -/
def Reachable (a : Account) : Prop :=
  ∃ grace tasksOptions metricsOptions selected source now origin, source.createCalls = 0 ∧
    ReflTransGen Step
      { session := fresh grace tasksOptions metricsOptions selected source now origin } a

/-! ### Nothing is left out -/

theorem errands_send (outcome : Created) (s : Session) :
    (s.send outcome).errands = s.errands ∧ (s.send outcome).source = s.source := by
  unfold Session.send
  split
  · exact ⟨rfl, rfl⟩
  · split <;> exact ⟨rfl, rfl⟩

theorem errands_answered (answer : Except Source.Fault Task) (s : Session) :
    (s.answered answer).errands = s.errands ∧ (s.answered answer).source = s.source := by
  cases answer <;> exact errands_send _ _

theorem createCalls_create (now : Time.Instant) (r : Request) (m : Memory) :
    (m.create now r).1.createCalls = m.createCalls + 1 := by
  unfold Memory.create
  dsimp only
  split <;> rfl

/-- An errand that is run leaves the source as it is once it was asked for its request. -/
theorem errands_runErrand (e : Errand) (s : Session) : (s.runErrand e).errands = s.errands ∧
    (s.runErrand e).source = (s.source.create s.instant e.request).1 := by
  rw [runErrand_eq]
  exact errands_answered _ _

/-- A board that makes no request leaves the errands as they are. -/
theorem errands_react (b : Board) {reaction : Reaction} (quiet : ∀ r, reaction ≠ .create r)
    (s : Session) :
    (s.react b reaction).1.errands = s.errands ∧ (s.react b reaction).1.source = s.source := by
  cases reaction with
  | create r => exact (quiet r rfl).elim
  | none => exact ⟨rfl, rfl⟩
  | quit => exact ⟨rfl, rfl⟩

/-- Whatever a session does is entered in its account. -/
theorem of_step (step : Session.Step a.session s) : ∃ a', Step a a' ∧ a'.session = s := by
  have rest (step : Session.Step a.session s)
      (kept : s.errands = a.session.errands ∧ s.source = a.session.source) :
      ∃ a', Step a a' ∧ a'.session = s :=
    ⟨_, .rest step kept.1 (congrArg Memory.createCalls kept.2), rfl⟩
  cases step with
  | start => exact rest .start ⟨rfl, rfl⟩
  | sync => exact rest .sync ⟨rfl, rfl⟩
  | handle h => exact ⟨_, .handle h, rfl⟩
  | take first => exact rest (.take first) ⟨rfl, rfl⟩
  | act action => exact rest (.act action) (errands_react _ (fun r => act_quiet _ action _) _)
  | actOnForm action => exact ⟨_, .actOnForm action, rfl⟩
  | @work w due =>
    cases w with
    | tasks j =>
      refine rest (.work due) ?_
      rw [run_tasks]
      exact ⟨rfl, rfl⟩
    | metrics j =>
      refine rest (.work due) ?_
      rw [run_metrics]
      exact ⟨rfl, rfl⟩
    | errand e =>
      obtain ⟨errands, listed⟩ := List.head?_eq_some_iff.mp due
      refine ⟨_, .call 0 (by rw [listed]; rfl), ?_⟩
      rw [call, Session.run, List.eraseIdx_zero, List.drop_one]
  | refill =>
    refine rest .refill ?_
    unfold Session.refill
    split <;> exact ⟨rfl, rfl⟩
  | pass now later => exact rest (.pass now later) ⟨rfl, rfl⟩

/-! ### What every step keeps -/

/-- What was passed to the source and what is to be passed on is what was submitted, and the source was
    asked as often as the account says. -/
structure Balanced (a : Account) : Prop where
  requests : ∃ requests, List.Forall₂ Form.Makes a.accepted requests ∧
    (a.calls ++ a.session.errands.map (·.request)).Perm requests
  counted : a.session.source.createCalls = a.calls.length

namespace Balanced

/-- A request is made of what the form holds, and becomes an errand. -/
theorem react {reaction : Reaction} (balanced : a.Balanced) (b : Board)
    (made : ∀ r, reaction = .create r →
      ∃ e, a.session.board.form = some e ∧ e.submitting = false ∧ e.form.validate = .ok r) :
    (a.react b reaction).Balanced := by
  obtain ⟨requests, all, split⟩ := balanced.requests
  cases reaction with
  | create r =>
    obtain ⟨e, opened, -, valid⟩ := made r rfl
    refine ⟨⟨requests ++ [r], ?_, ?_⟩, balanced.counted⟩
    · rw [Account.react, held, opened]
      exact List.rel_append all (.cons (Form.validate_ok.mp valid) .nil)
    · have more : (a.react b (.create r)).session.errands.map (·.request) =
          a.session.errands.map (·.request) ++ [r] := by
        simp [Account.react, Session.react, Session.withBoard]
      rw [more, ← List.append_assoc]
      exact split.append_right [r]
  | none => exact ⟨⟨requests, by simpa [Account.react, held] using all, split⟩, balanced.counted⟩
  | quit => exact ⟨⟨requests, by simpa [Account.react, held] using all, split⟩, balanced.counted⟩

/-- An errand that is run becomes a call. -/
theorem call {i : Nat} {e : Errand} (balanced : a.Balanced)
    (waits : a.session.errands[i]? = some e) : (a.call i e).Balanced := by
  obtain ⟨inside, rfl⟩ := List.getElem?_eq_some_iff.mp waits
  obtain ⟨requests, all, split⟩ := balanced.requests
  obtain ⟨errands, source⟩ := errands_runErrand a.session.errands[i]
    { a.session with errands := a.session.errands.eraseIdx i }
  rw [Account.call, ask_listing]
  refine ⟨⟨requests, all, .trans ?_ split⟩, ?_⟩
  · have taken := (List.getElem_cons_eraseIdx_perm inside).map (·.request)
    rw [errands, List.append_assoc]
    exact taken.append_left a.calls
  · rw [source, createCalls_create, List.length_append, balanced.counted]
    rfl

theorem step (step : Step a a') (balanced : a.Balanced) : a'.Balanced := by
  cases step with
  | handle h => exact balanced.react _ fun r made => handle_creates made
  | actOnForm action => exact balanced.react _ fun r made => actOnForm_creates made
  | call i waits => exact balanced.call waits
  | source source calls => exact ⟨balanced.requests, calls.trans balanced.counted⟩
  | rest step errands calls => exact ⟨errands ▸ balanced.requests, calls.trans balanced.counted⟩

end Balanced

theorem Reachable.balanced (ha : a.Reachable) : a.Balanced := by
  obtain ⟨grace, tasksOptions, metricsOptions, selected, source, now, origin, unasked, leads⟩ := ha
  induction leads with
  | refl => exact ⟨⟨[], .nil, .nil⟩, unasked⟩
  | tail _ step ih => exact ih.step step

/-- Keys are pressed one after another. -/
def press (a : Account) (keys : List KeyCode) : Account :=
  keys.foldl (fun a code => a.handle (.key { code })) a

theorem leads_press : ∀ (keys : List KeyCode) (a : Account), ReflTransGen Step a (a.press keys)
  | [], _ => .refl
  | _ :: rest, _ => .head (.handle _) (leads_press rest _)

end Account

end Session

/-- Whatever is done in a session, and whatever its source is like: the requests that the source was
    asked for, with those of the errands that are left, are one for each submit that was accepted, and
    each says what the form held then, with a name and a priority that keep the rules. The source was
    asked as often as requests are listed, and an errand that is run leaves it as it is once it was
    asked for the request of that errand. Whatever a session does is entered in its account. A submit
    of a form that keeps the rules is accepted and makes one errand. One of a form that does not makes
    none, and changes nothing of the form but that it is told all that it breaks; and a form that is
    submitting is not changed at all. -/
theorem only_valid_requests {a : Session.Account} (ha : a.Reachable) :
    (∃ requests, List.Forall₂ Form.Makes a.accepted requests ∧
      (a.calls ++ a.session.errands.map (·.request)).Perm requests) ∧
    a.session.source.createCalls = a.calls.length ∧
    (∀ i e, a.session.errands[i]? = some e → (a.call i e).calls = a.calls ++ [e.request] ∧
      (a.call i e).session.source = (a.session.source.create a.session.instant e.request).1) ∧
    (∀ s, Session.Step a.session s → ∃ a', a.Step a' ∧ a'.session = s) ∧
    ∀ e key, a.session.board.form = some e → formAction? key = some .submit →
      let a' := a.handle (.key key)
      (e.submitting = false → ∀ r, e.form.Makes r → a'.accepted = a.accepted ++ [e.form] ∧
        a'.session.errands.map (·.request) = a.session.errands.map (·.request) ++ [r] ∧
        a'.session.board.form = some { e with violations := none, submitting := true }) ∧
      (e.submitting = false → (∀ r, ¬ e.form.Makes r) → a'.accepted = a.accepted ∧
        a'.session.errands = a.session.errands ∧
        ∃ vs, a'.session.board.form = some { e with violations := some vs } ∧
          (∀ v, v ∈ vs ↔ e.form.Breaks v) ∧ (vs.map (·.field)).Sublist Field.all) ∧
      (e.submitting = true → a'.accepted = a.accepted ∧ a'.session.errands = a.session.errands ∧
        a.session.board.handle a.session.instant (.key key) = (a.session.board, .none)) := by
  obtain ⟨requests, counted⟩ := ha.balanced
  refine ⟨requests, counted, fun i e _ => ⟨rfl, (Session.Account.errands_runErrand e _).2⟩,
    fun s step => Session.Account.of_step step, fun e key opened meaning => ?_⟩
  have handled : a.session.board.handle a.session.instant (.key key) = a.session.board.submit :=
    handle_submit opened meaning
  have became : a.handle (.key key) =
      a.react a.session.board.submit.1 a.session.board.submit.2 := by
    rw [Session.Account.handle, handled]
  rw [became]
  refine ⟨fun idle r makes => ?_, fun idle invalid => ?_, fun flag => ?_⟩
  · rw [submit_accepted opened idle makes]
    refine ⟨?_, ?_, rfl⟩
    · rw [Session.Account.react, Session.held, opened]
      rfl
    · simp [Session.Account.react, Session.react, Session.withBoard]
  · obtain ⟨quiet, form⟩ := submit_rejected opened idle invalid
    rw [quiet]
    exact ⟨List.append_nil _, rfl, _, form, fun v => Form.mem_violations, e.form.fields_violations⟩
  · have still := submit_submitting opened flag
    rw [still]
    exact ⟨List.append_nil _, rfl, handled.trans still⟩

/-- A name that is too short is rejected. With one character more it is accepted, and edited further
    before the request is passed on, but the source is asked for what was submitted. -/
theorem submitted_name_asked_for :
    let begun : Session.Account :=
      { session := .fresh 300000 {} {} none (.ofTasks [] 0 0) 0 Time.benchStart }
    let a := begun.press [.char 'n', .char 'a', .char 'b', .enter, .char 'c', .enter, .char 'd']
    ∃ e, a.session.errands = [e] ∧ (a.call 0 e).Reachable ∧
      (a.call 0 e).calls = [⟨"abc", .email, 5⟩] ∧
      (a.call 0 e).accepted = [⟨"abc", some .email, "5"⟩] ∧
      (a.call 0 e).session.source.createCalls = 1 ∧
      (a.call 0 e).session.source.tasks.map (·.name) = ["abc"] := by
  intro begun a
  have waits : a.session.errands = [⟨⟨"abc", .email, 5⟩, 5⟩] := rfl
  have asked : (a.call 0 ⟨⟨"abc", .email, 5⟩, 5⟩).Reachable :=
    ⟨_, _, _, _, _, _, _, rfl, (Session.Account.leads_press _ begun).tail
      (.call 0 (by rw [waits]; rfl))⟩
  obtain ⟨-, counted, -⟩ := only_valid_requests asked
  exact ⟨_, waits, asked, rfl, by decide +kernel, counted, by decide +kernel⟩

end TaskWatch
