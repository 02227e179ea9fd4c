import TaskWatch.Proofs.Board.Desk
import TaskWatch.Proofs.Board.Shift

/-! The open form takes every key.

    The keymaps of the board and of the form share most of their keys, and which of them a key is looked
    up in depends on what the keys before it did. While the form is open, a key changes the form or
    nothing: it does not end the program, and on the rest of the board nothing is different afterwards.
    What is typed into the name stands there as it was typed, whichever keys of the board it is
    made of. The priority takes digits and minus signs only, and as every form begins with a digit there,
    it never holds anything else. -/

namespace TaskWatch

open Board

variable {b : Board} {e e' : Editor} {now : Time.Instant}

/-! ### What a key does to the open form -/

/-- A text of digits and minus signs. -/
def Board.PriorityText (s : String) : Prop := ∀ c ∈ s.toList, ('0' ≤ c ∧ c ≤ '9') ∨ c = '-'

/-- All that a key can do to the priority of a form that stays open. -/
inductive Editor.Amends (e e' : Editor) : Prop
  | leaves (same : e'.form.priority = e.form.priority)
  | adds (c : Char) (focus : e.focus = .priority) (allowed : ('0' ≤ c ∧ c ≤ '9') ∨ c = '-')
      (added : e'.form.priority = e.form.priority.push c)
  | takesBack (focus : e.focus = .priority)
      (taken : e'.form.priority = Editor.withoutLast e.form.priority)

theorem Editor.isPriorityChar_iff {c : Char} :
    Editor.isPriorityChar c = true ↔ ('0' ≤ c ∧ c ≤ '9') ∨ c = '-' := by
  simp [Editor.isPriorityChar, Text.isDigit]

theorem Editor.amends_input (c : Char) (e : Editor) : e.Amends (e.input c) := by
  unfold Editor.input
  split
  · exact .leaves rfl
  · rename_i focus
    split
    · rename_i allowed
      exact .adds c focus (Editor.isPriorityChar_iff.mp allowed) rfl
    · exact .leaves rfl
  · split
    · exact .leaves rfl
    · split <;> exact .leaves rfl

theorem Editor.amends_backspace (e : Editor) : e.Amends e.backspace := by
  unfold Editor.backspace
  split
  · exact .leaves rfl
  · rename_i focus
    exact .takesBack focus rfl
  · exact .leaves rfl

theorem Board.PriorityText.amends (amends : e.Amends e') (text : PriorityText e.form.priority) :
    PriorityText e'.form.priority := by
  cases amends with
  | leaves same => rwa [same]
  | adds c _ allowed added =>
    rw [added]
    intro d listed
    rw [String.toList_push, List.mem_append, List.mem_singleton] at listed
    rcases listed with before | rfl
    · exact text d before
    · exact allowed
  | takesBack _ taken =>
    rw [taken]
    intro d listed
    rw [Editor.withoutLast, String.toList_ofList] at listed
    exact text d ((List.dropLast_sublist _).subset listed)

namespace Board

/-- Submitting changes nothing that was filled in. -/
theorem amends_submit (opened : b.form = some e) (left : b.submit.1.form = some e') : e.Amends e' := by
  unfold submit at left
  rw [opened] at left
  dsimp only at left
  split at left
  · obtain rfl := Option.some.inj (opened.symm.trans left)
    exact .leaves rfl
  · split at left
    · obtain rfl := Option.some.inj left
      exact .leaves rfl
    · obtain rfl := Option.some.inj left
      exact .leaves rfl

theorem amends_actOnForm {a : FormAction} (opened : b.form = some e)
    (left : (b.actOnForm a).1.form = some e') : e.Amends e' := by
  have edited {f : Editor → Editor} (amends : e.Amends (f e)) (left : (b.edit f).form = some e') :
      e.Amends e' := by
    rw [edit, opened] at left
    exact Option.some.inj left ▸ amends
  cases a with
  | submit => exact amends_submit opened left
  | close => exact nomatch left
  | input c => exact edited (e.amends_input c) left
  | backspace => exact edited e.amends_backspace left
  | nextField => exact edited (.leaves rfl) left
  | previousField => exact edited (.leaves rfl) left
  | nextOption => exact edited (.leaves rfl) left
  | previousOption => exact edited (.leaves rfl) left

theorem submit_ne_quit (b : Board) : b.submit.2 ≠ .quit := by
  unfold submit
  split
  · nofun
  · split
    · nofun
    · split <;> nofun

theorem actOnForm_ne_quit (a : FormAction) (b : Board) : (b.actOnForm a).2 ≠ .quit := by
  cases a with
  | submit => exact submit_ne_quit b
  | _ => nofun

/-- While the form is open, a key is one of the form, or means nothing. -/
theorem handle_key_cases (opened : b.form.isSome = true) (now : Time.Instant) (key : KeyEvent) :
    b.handle now (.key key) = (b, .none) ∨ ∃ a, b.handle now (.key key) = b.actOnForm a := by
  unfold handle
  dsimp only
  rw [if_pos opened]
  cases formAction? key with
  | none => exact .inl rfl
  | some a => exact .inr ⟨a, rfl⟩

/-! ### Many keys -/

/-- The board after several keys, each pressed or let go at its own moment. -/
def pressed (b : Board) (keys : List (Time.Instant × KeyEvent)) : Board :=
  keys.foldl (fun b key => (b.handle key.1 (.key key.2)).1) b

/-- The form is open whenever one of the keys comes. -/
def captures : Board → List (Time.Instant × KeyEvent) → Bool
  | _, [] => true
  | b, key :: rest => b.form.isSome && (b.handle key.1 (.key key.2)).1.captures rest

/-- The form takes the keys, and nothing else on the board changes. -/
theorem pressed_eq {keys : List (Time.Instant × KeyEvent)} (stays : b.captures keys = true) :
    ∃ form journal, b.pressed keys = { b with form, journal } := by
  induction keys generalizing b with
  | nil => exact ⟨b.form, b.journal, rfl⟩
  | cons key rest ih =>
    obtain ⟨opened, stays⟩ := Bool.and_eq_true_iff.mp stays
    obtain ⟨form, journal, later⟩ := ih stays
    have first : ∃ form journal, (b.handle key.1 (.key key.2)).1 = { b with form, journal } := by
      rcases handle_key_cases opened key.1 key.2 with idle | ⟨a, handled⟩
      · exact ⟨b.form, b.journal, congrArg Prod.fst idle⟩
      · rw [handled]
        exact actOnForm_eq a b
    obtain ⟨_, _, first⟩ := first
    refine ⟨form, journal, later.trans ?_⟩
    rw [first]

/-- A step to the next kind and one back undo each other, in either order. -/
theorem Editor.cycleKind_back {k : Kind} (chosen : e.form.kind = some k) (forward : Bool) :
    (e.cycleKind forward).cycleKind (!forward) = e := by
  obtain ⟨⟨name, kind, priority⟩, focus, violations, submitting⟩ := e
  obtain rfl : kind = some k := chosen
  cases forward with
  | true => simp [Editor.cycleKind, Kind.previous_next]
  | false => simp [Editor.cycleKind, Kind.next_previous]

/-- Where a kind is chosen, the two keys that step through the kinds undo each other. -/
theorem pressed_right_left {k : Kind} (opened : b.form = some e) (chosen : e.form.kind = some k)
    (first last : Time.Instant) :
    b.pressed [(first, { code := .right }), (last, { code := .left })] = b ∧
      b.pressed [(first, { code := .left }), (last, { code := .right })] = b := by
  have steps (forward : Bool) : (b.edit (·.cycleKind forward)).edit (·.cycleKind (!forward)) = b := by
    have back : (b.form.map (·.cycleKind forward)).map (·.cycleKind (!forward)) = b.form := by
      simp [opened, Editor.cycleKind_back chosen]
    rw [edit, edit, back]
  have right (now : Time.Instant) {b : Board} (opened : b.form.isSome = true) :
      (b.handle now (.key { code := .right })).1 = b.edit (·.cycleKind true) := by
    simp [handle, opened, formAction?, plainFormAction?, actOnForm]
  have left (now : Time.Instant) {b : Board} (opened : b.form.isSome = true) :
      (b.handle now (.key { code := .left })).1 = b.edit (·.cycleKind false) := by
    simp [handle, opened, formAction?, plainFormAction?, actOnForm]
  have stays (forward : Bool) : (b.edit (·.cycleKind forward)).form.isSome = true := by
    simp [edit, opened]
  refine ⟨?_, ?_⟩
  · rw [pressed, List.foldl_cons, List.foldl_cons, List.foldl_nil, right first (by simp [opened]),
      left last (stays true)]
    exact steps true
  · rw [pressed, List.foldl_cons, List.foldl_cons, List.foldl_nil, left first (by simp [opened]),
      right last (stays false)]
    exact steps false

/-! ### Typing -/

/-- The keys type these characters. Other modifiers than the control key may be held down, and keys may
    be let go in between. -/
inductive Types : List (Time.Instant × KeyEvent) → List Char → Prop
  | done : Types [] []
  | letsGo {key : Time.Instant × KeyEvent} {keys : List (Time.Instant × KeyEvent)} {cs : List Char}
      (released : key.2.stroke = .release) (rest : Types keys cs) : Types (key :: keys) cs
  | types {key : Time.Instant × KeyEvent} {keys : List (Time.Instant × KeyEvent)} {c : Char}
      {cs : List Char} (code : key.2.code = .char c) (plain : key.2.modifiers.control = false)
      (down : key.2.stroke ≠ .release) (rest : Types keys cs) : Types (key :: keys) (c :: cs)

/-- The form with more text at the end of its name. -/
def named (e : Editor) (text : String) : Editor :=
  { e with form := { e.form with name := e.form.name ++ text } }

theorem named_input (focus : e.focus = .name) (c : Char) (cs : List Char) :
    named (e.input c) (String.ofList cs) = named e (String.ofList (c :: cs)) := by
  have name : e.form.name.push c ++ String.ofList cs = e.form.name ++ String.ofList (c :: cs) := by
    rw [← String.toList_inj]
    simp
  simp only [named, Editor.input, focus, name]

theorem focus_input (focus : e.focus = .name) (c : Char) : (e.input c).focus = .name := by
  simp only [Editor.input, focus]

/-- What is typed is added to the name, and that is all. -/
theorem pressed_types {keys : List (Time.Instant × KeyEvent)} {cs : List Char} (types : Types keys cs)
    (opened : b.form = some e) (focus : e.focus = .name) :
    b.pressed keys = { b with form := some (named e (String.ofList cs)) } := by
  induction types generalizing b e with
  | done => simp [pressed, named, ← opened]
  | @letsGo key keys cs released rest ih =>
    have idle : b.handle key.1 (.key key.2) = (b, .none) := by
      simp [handle, opened, formAction?, released]
    rw [pressed, List.foldl_cons, idle]
    exact ih opened focus
  | @types key keys c cs code plain down rest ih =>
    have typed : b.handle key.1 (.key key.2) = ({ b with form := some (e.input c) }, .none) := by
      simp [handle, opened, formAction?, down, plain, code, plainFormAction?, actOnForm, edit]
    rw [pressed, List.foldl_cons, typed]
    refine (ih rfl (focus_input focus c)).trans ?_
    rw [named_input focus]

/-! ### The priority of a form -/

/-- If the form is open, its priority holds digits and minus signs only. -/
def KeepsPriority (b : Board) : Prop := ∀ e, b.form = some e → PriorityText e.form.priority

/-- Every form begins with the priority 5. -/
theorem priorityText_fresh : PriorityText ({} : Editor).form.priority := by
  intro c listed
  obtain rfl : c = '5' := List.mem_singleton.mp listed
  exact .inl (by decide)

theorem KeepsPriority.handle (keeps : b.KeepsPriority) (now : Time.Instant) (h : Happening) :
    (b.handle now h).1.KeepsPriority := by
  cases h with
  | key key =>
    cases opened : b.form with
    | some e =>
      rcases handle_key_cases (Option.isSome_of_eq_some opened) now key with idle | ⟨a, handled⟩
      · rwa [idle]
      · rw [handled]
        exact fun e' left => (keeps e opened).amends (amends_actOnForm opened left)
    | none =>
      unfold Board.handle
      simp only [opened, Option.isSome_none, Bool.false_eq_true, if_false]
      split
      · rename_i a meaning
        intro e' left
        rcases (form_act now a opened).2 with closed | fresh
        · exact nomatch closed.symm.trans left
        · obtain rfl := Option.some.inj (fresh.symm.trans left)
          exact priorityText_fresh
      · exact keeps
  | resize => exact keeps
  | created outcome =>
    cases outcome with
    | ok task => exact nofun
    | error message =>
      intro e' left
      obtain ⟨e, opened, rfl⟩ := Option.map_eq_some_iff.mp left
      exact keeps e opened

theorem KeepsPriority.pressed (keeps : b.KeepsPriority) (keys : List (Time.Instant × KeyEvent)) :
    (b.pressed keys).KeepsPriority := by
  induction keys generalizing b with
  | nil => exact keeps
  | cons key rest ih => exact ih (keeps.handle key.1 (.key key.2))

end Board

namespace Shift

variable {t t' : Shift}

theorem Step.keepsPriority (step : Step t t') (keeps : t.board.KeepsPriority) :
    t'.board.KeepsPriority := by
  cases step with
  | look =>
    intro e opened
    rw [show t.look.board.form = t.board.sync.1.form from rfl, form_sync] at opened
    exact keeps e opened
  | key e => exact keeps.handle t.now (.key e)
  | resize => exact keeps
  | settle i out outcome => exact keeps.handle t.now (.created outcome)
  | tasks supplier state listed due => exact keeps
  | metrics supplier state listed due => exact keeps
  | pass now later => exact keeps

theorem Leads.keepsPriority (leads : t.Leads t') (keeps : t.board.KeepsPriority) :
    t'.board.KeepsPriority := by
  induction leads with
  | refl => exact keeps
  | tail _ step ih => exact step.keepsPriority ih

/-- No form is open at the beginning. -/
theorem Reachable.keepsPriority (ht : t.Reachable) : t.board.KeepsPriority := by
  rcases ht with ⟨grace, o, o', selected, now, leads⟩ | ⟨_, _, _, _, _, leads⟩
  · refine leads.keepsPriority fun e opened => ?_
    have closed : (started grace o o' selected now).board.form = none :=
      congrArg (·.2.1) (desk_start now (fresh grace o o' selected now).board)
    exact nomatch closed.symm.trans opened
  · exact leads.keepsPriority nofun

end Shift

/-- Whatever keys come to a board at work: while its form is open they change nothing on the board but
    the form, and the next one does not end the program either. All that a key does to the priority is
    to add a digit or a minus sign, or to take the last character back, and that only while the priority
    has the focus, so there is never anything else in it. A text that is typed while the name has
    the focus is added to the name as it is. -/
theorem open_form_takes_keys {t : Shift} (ht : t.Reachable) (keys : List (Time.Instant × KeyEvent)) :
    (t.board.captures keys = true →
      ∃ form journal, t.board.pressed keys = { t.board with form, journal }) ∧
    (∀ e now key, (t.board.pressed keys).form = some e →
      ((t.board.pressed keys).handle now (.key key)).2 ≠ .quit ∧
      ∀ e', ((t.board.pressed keys).handle now (.key key)).1.form = some e' → e.Amends e') ∧
    (∀ e text, t.board.form = some e → e.focus = .name → Types keys text.toList →
      t.board.pressed keys = { t.board with
        form := some { e with form := { e.form with name := e.form.name ++ text } } }) ∧
    ∀ e, (t.board.pressed keys).form = some e →
      ∀ c ∈ e.form.priority.toList, ('0' ≤ c ∧ c ≤ '9') ∨ c = '-' := by
  refine ⟨pressed_eq, fun e now key opened => ?_, fun e text opened focus types => ?_,
    ht.keepsPriority.pressed keys⟩
  · rcases handle_key_cases (Option.isSome_of_eq_some opened) now key with idle | ⟨a, handled⟩
    · rw [idle]
      refine ⟨nofun, fun e' left => ?_⟩
      obtain rfl := Option.some.inj (opened.symm.trans left)
      exact .leaves rfl
    · rw [handled]
      exact ⟨actOnForm_ne_quit a _, fun e' left => amends_actOnForm opened left⟩
  · rw [pressed_types types opened focus, String.ofList_toList]
    rfl

/-- The name of a task is made of keys of the board, one of them held down until it is typed again. Then
    the priority is typed, with a letter in between, and with the control key held down another key of
    the board. -/
theorem board_keys_fill_form :
    let t := Shift.played [.key (.char 'n')]
    let typed : List (Time.Instant × KeyEvent) := [(t.now, { code := .char 'q' }),
      (t.now, { code := .char 'q', stroke := .release }), (t.now, { code := .char 'p' }),
      (t.now, { code := .char 'p', stroke := .again })]
    let keys := typed ++ [(t.now, { code := .tab }), (t.now, { code := .tab }),
      (t.now, { code := .char '-' }), (t.now, { code := .char 'j' }),
      (t.now, { code := .char 'r', modifiers := { control := true } })]
    t.board.pressed typed = { t.board with form := some { form := { Form.fresh with name := "qpp" } } } ∧
    (∃ form journal, t.board.pressed keys = { t.board with form, journal }) ∧
    (t.board.pressed keys).form =
      some { form := ⟨"qpp", some .email, "5-"⟩, focus := .priority } ∧
    ((t.board.pressed keys).handle t.now (.key { code := .char 'q' })).2 ≠ .quit := by
  intro t typed keys
  have ht : t.Reachable := (Shift.started_played _).reachable
  have opened : t.board.form = some {} := by decide +kernel
  have types : Types typed "qpp".toList :=
    .types rfl rfl nofun (.letsGo rfl (.types rfl rfl nofun (.types rfl rfl nofun .done)))
  have stays : t.board.captures keys = true := by decide +kernel
  have filled : (t.board.pressed keys).form =
      some { form := ⟨"qpp", some .email, "5-"⟩, focus := .priority } := by decide +kernel
  obtain ⟨-, -, takes, -⟩ := open_form_takes_keys ht typed
  obtain ⟨rest, still, -, -⟩ := open_form_takes_keys ht keys
  exact ⟨takes _ "qpp" opened rfl types, rest stays, filled, (still _ t.now _ filled).1⟩

end TaskWatch
