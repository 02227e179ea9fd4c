import Mathlib.Data.List.Perm.Basic
import TaskWatch.Proofs.Board.Desk
import TaskWatch.Proofs.Board.Shift

/-! Forms, and the requests that are made from them.

    An outcome does not tell which form its request was made from, so the board takes it for an outcome
    of the form that is open. After a success that form is closed, and after a failure it may submit
    again, whichever form it is. `Turn` says all that a step can do to the forms and the orders. Two
    things hold in spite of the confusion and are kept by every turn (`Ledger`): a form that is
    submitting has an order out, and as long as a form is not misled by a failure of another's, it has
    one order out at most, and is submitting until that one is settled. -/

namespace TaskWatch

open Cache Board

variable {t t' : Shift} {form : Option Editor} {forms n i : Nat} {orders : List Order} {o : Order}
  {misled : List Nat}

/-! ### Orders of one form -/

theorem Board.fromForm_append (n : Nat) (orders more : List Order) :
    fromForm n (orders ++ more) = fromForm n orders ++ fromForm n more := List.filter_append ..

theorem Board.fromForm_own (own : ∀ o ∈ orders, o.form = n) : fromForm n orders = orders :=
  List.filter_eq_self.mpr fun o listed => beq_iff_eq.mpr (own o listed)

theorem Board.fromForm_other (other : ∀ o ∈ orders, o.form ≠ n) : fromForm n orders = [] :=
  List.filter_eq_nil_iff.mpr fun o listed => by simpa using other o listed

/-- An order that is settled is taken off those of its form, and those of other forms stay. -/
theorem Board.fromForm_eraseIdx (out : orders[i]? = some o) (n : Nat) :
    List.Perm ((if o.form = n then [o] else []) ++ fromForm n (orders.eraseIdx i))
      (fromForm n orders) := by
  obtain ⟨inside, rfl⟩ := List.getElem?_eq_some_iff.mp out
  have split := (List.getElem_cons_eraseIdx_perm inside).filter (fun o => o.form == n)
  rw [List.filter_cons] at split
  by_cases own : orders[i].form = n <;> simpa [fromForm, own] using split

namespace Shift

/-! ### What a step can do -/

/-- The form that is open, how many there were, the orders that are out, and the forms that are
    misled. -/
def papers (t : Shift) : Option Editor × Nat × List Order × List Nat :=
  (t.board.form, t.forms, t.orders, t.misled)

/-- All that a step can do to forms and orders. -/
inductive Turn (t t' : Shift) : Prop
  | keeps (same : t'.papers = t.papers)
  | opens (closed : t.board.form = none)
      (fresh : t'.papers = (some {}, t.forms + 1, t.orders, t.misled))
  | edits {e e' : Editor} (opened : t.board.form = some e) (flag : e'.submitting = e.submitting)
      (edited : t'.papers = (some e', t.forms, t.orders, t.misled))
  | closes (closed : t'.papers = (none, t.forms, t.orders, t.misled))
  | submits {e : Editor} {r : Request} (opened : t.board.form = some e)
      (idle : e.submitting = false) (valid : e.form.validate = .ok r)
      (sent : t'.papers = (some { e with violations := none, submitting := true }, t.forms,
        t.orders ++ [⟨t.forms, r⟩], t.misled))
  /-- An order succeeded, and the form is closed that is open. -/
  | succeeds {i : Nat} {o : Order} (out : t.orders[i]? = some o)
      (settled : t'.papers = (none, t.forms, t.orders.eraseIdx i, t.misled))
  /-- An order failed, and the form that is open is told. -/
  | fails {i : Nat} {o : Order} (message : String) (out : t.orders[i]? = some o)
      (settled : t'.papers = (t.board.form.map (fun e => { e with submitting := false }), t.forms,
        t.orders.eraseIdx i,
        if t.misleads o (.error message) then t.forms :: t.misled else t.misled))

theorem submitting_input (c : Char) (e : Editor) : (e.input c).submitting = e.submitting := by
  unfold Editor.input
  split
  · rfl
  · split <;> rfl
  · split
    · rfl
    · split <;> rfl

theorem submitting_backspace (e : Editor) : e.backspace.submitting = e.submitting := by
  unfold Editor.backspace
  split <;> rfl

/-- A key of the form edits it, closes it or submits it. -/
theorem turn_actOnForm {e : Editor} {key : KeyEvent} {a : FormAction}
    (opened : t.board.form = some e)
    (handled : t.board.handle t.now (.key key) = t.board.actOnForm a) : Turn t (t.key key) := by
  have papers : (t.key key).papers = ((t.board.actOnForm a).1.form, t.forms, t.orders ++
      ((t.board.actOnForm a).2.request?.map (fun request => ⟨t.forms, request⟩)).toList,
      t.misled) := by
    rw [Shift.papers, Shift.key, handled, opened]
    rfl
  have edited (f : Editor → Editor) (flag : (f e).submitting = e.submitting)
      (same : t.board.actOnForm a = (t.board.edit f, .none)) : Turn t (t.key key) := by
    refine .edits opened flag ?_
    rw [papers, same, edit, opened]
    simp [Reaction.request?]
  cases a with
  | submit =>
    rw [show t.board.actOnForm .submit = t.board.submit from rfl, submit, opened] at papers
    dsimp only at papers
    cases flag : e.submitting with
    | true => exact .keeps (by simpa [flag, Reaction.request?, Shift.papers, opened] using papers)
    | false =>
      cases valid : e.form.validate with
      | error vs =>
        have flag' : ({ e with violations := some vs } : Editor).submitting = e.submitting := rfl
        refine .edits opened flag' ?_
        simpa [flag, valid, Reaction.request?, Board.report] using papers
      | ok r =>
        refine .submits opened flag valid ?_
        simpa [flag, valid, Reaction.request?] using papers
  | close => exact .closes (by simpa [actOnForm, Reaction.request?] using papers)
  | input c => exact edited _ (submitting_input c e) rfl
  | backspace => exact edited _ (submitting_backspace e) rfl
  | nextField => exact edited _ rfl rfl
  | previousField => exact edited _ rfl rfl
  | nextOption => exact edited _ rfl rfl
  | previousOption => exact edited _ rfl rfl

/-- A key of the board opens a form at most. -/
theorem turn_act {key : KeyEvent} {a : Action} (closed : t.board.form = none)
    (handled : t.board.handle t.now (.key key) = t.board.act t.now a) : Turn t (t.key key) := by
  obtain ⟨quiet, form⟩ := form_act t.now a closed
  have silent : (t.board.act t.now a).2.request? = none := by
    cases reaction : (t.board.act t.now a).2 with
    | create r => exact absurd reaction (quiet r)
    | _ => rfl
  have papers : (t.key key).papers = ((t.board.act t.now a).1.form,
      if (t.board.act t.now a).1.form.isSome then t.forms + 1 else t.forms, t.orders, t.misled) := by
    simp [Shift.papers, Shift.key, handled, closed, silent, withBoard]
  rcases form with form | form
  · exact .keeps (by simpa [form, Shift.papers, closed] using papers)
  · exact .opens closed (by simpa [form] using papers)

theorem turn_key (e : KeyEvent) (t : Shift) : Turn t (t.key e) := by
  have idle (handled : t.board.handle t.now (.key e) = (t.board, .none)) : Turn t (t.key e) := by
    refine .keeps ?_
    cases form : t.board.form <;>
      simp [papers, Shift.key, handled, form, withBoard, Reaction.request?]
  cases form : t.board.form with
  | some editor =>
    cases meaning : formAction? e with
    | some a => exact turn_actOnForm (a := a) form (by simp [handle, form, meaning])
    | none => exact idle (by simp [handle, form, meaning])
  | none =>
    cases meaning : action? e with
    | some a => exact turn_act (a := a) form (by simp [handle, form, meaning])
    | none => exact idle (by simp [handle, form, meaning])

/-- An outcome closes the form that is open, or tells it of a failure. -/
theorem turn_settle (out : t.orders[i]? = some o) (outcome : Created) :
    Turn t (t.settle i o outcome) := by
  cases outcome with
  | ok task => exact .succeeds out rfl
  | error message => exact .fails message out rfl

theorem Step.turn (step : Step t t') : Turn t t' := by
  cases step with
  | look => exact .keeps (by rw [papers, papers, Shift.look, withBoard, ← form_sync t.board])
  | key e => exact turn_key e t
  | settle i out outcome => exact turn_settle out outcome
  | resize => exact .keeps rfl
  | tasks supplier state listed due => exact .keeps rfl
  | metrics supplier state listed due => exact .keeps rfl
  | pass now later => exact .keeps rfl

/-! ### What every turn keeps -/

/-- What holds of forms and orders in spite of the confusion. -/
structure Ledger (form : Option Editor) (forms : Nat) (orders : List Order) (misled : List Nat) :
    Prop where
  numbered : ∀ o ∈ orders, o.form ≤ forms
  placed : ∀ e, form = some e → e.submitting = true → fromForm forms orders ≠ []
  single : ∀ n, n ∉ misled → (fromForm n orders).length ≤ 1
  submitting : ∀ e, form = some e → forms ∉ misled → fromForm forms orders ≠ [] → e.submitting = true

namespace Ledger

theorem closes (l : Ledger form forms orders misled) : Ledger none forms orders misled where
  numbered := l.numbered
  placed := nofun
  single := l.single
  submitting := nofun

/-- A new form has no orders. -/
theorem opens (l : Ledger form forms orders misled) : Ledger (some {}) (forms + 1) orders misled where
  numbered o listed := Nat.le_succ_of_le (l.numbered o listed)
  placed e opened flag := by
    obtain rfl := Option.some.inj opened
    simp at flag
  single := l.single
  submitting e _ _ out :=
    absurd (fromForm_other fun o listed => Nat.ne_of_lt (Nat.lt_succ_of_le (l.numbered o listed))) out

theorem edits {e e' : Editor} (l : Ledger (some e) forms orders misled)
    (flag : e'.submitting = e.submitting) : Ledger (some e') forms orders misled where
  numbered := l.numbered
  placed _ opened submitting :=
    l.placed e rfl (flag ▸ Option.some.inj opened ▸ submitting)
  single := l.single
  submitting _ opened trusted out :=
    Option.some.inj opened ▸ flag.trans (l.submitting e rfl trusted out)

/-- A form that is not misled has no order out when it submits. -/
theorem submits {e e' : Editor} (l : Ledger (some e) forms orders misled)
    (idle : e.submitting = false) (flag : e'.submitting = true) (r : Request) :
    Ledger (some e') forms (orders ++ [⟨forms, r⟩]) misled where
  numbered o listed := by
    rcases List.mem_append.mp listed with listed | new
    · exact l.numbered o listed
    · exact List.mem_singleton.mp new ▸ Nat.le_refl forms
  placed _ _ _ := by simp [fromForm]
  single n trusted := by
    rw [fromForm_append]
    by_cases mine : forms = n
    · subst n
      have none_out : fromForm forms orders = [] := by
        by_contra out
        exact absurd (l.submitting e rfl trusted out) (by simp [idle])
      rw [none_out, List.nil_append]
      exact List.length_filter_le _ _
    · have other : fromForm n [⟨forms, r⟩] = [] := fromForm_other (by simpa using mine)
      rw [other, List.append_nil]
      exact l.single n trusted
  submitting _ opened _ _ := Option.some.inj opened ▸ flag

/-- With an order that is settled no form has more orders out than before. -/
theorem settles (l : Ledger form forms orders misled) (i : Nat) :
    Ledger none forms (orders.eraseIdx i) misled where
  numbered o listed := l.numbered o (List.mem_of_mem_eraseIdx listed)
  placed := nofun
  single n trusted :=
    Nat.le_trans ((List.eraseIdx_sublist orders i).filter _).length_le (l.single n trusted)
  submitting := nofun

/-- A form that is told of a failure has no order out any more, or it is misled. -/
theorem fails {e : Editor} (l : Ledger (some e) forms orders misled) (out : orders[i]? = some o) :
    Ledger (some { e with submitting := false }) forms (orders.eraseIdx i)
      (if o.form != forms && e.submitting then forms :: misled else misled) := by
  obtain ⟨numbered, -, single, -⟩ := l.settles _
  have split := fromForm_eraseIdx out forms
  refine ⟨numbered, fun e' opened flag => ?_, fun n trusted => single n ?_,
    fun e' opened trusted own => ?_⟩
  · obtain rfl := Option.some.inj opened
    simp at flag
  · split at trusted
    · exact fun listed => trusted (List.mem_cons_of_mem _ listed)
    · exact trusted
  · by_cases mine : o.form = forms
    · -- The order was the only one of the form.
      have trusted : forms ∉ misled := by simpa [mine] using trusted
      have only := l.single forms trusted
      rw [← split.length_eq, if_pos mine, List.length_append, List.length_singleton] at only
      exact absurd (List.eq_nil_of_length_eq_zero (by omega)) own
    · rw [if_neg mine, List.nil_append] at split
      have own : fromForm forms orders ≠ [] := fun empty => own (List.perm_nil.mp (empty ▸ split))
      cases flag : e.submitting with
      | true => simp [mine, flag] at trusted
      | false =>
        have trusted : forms ∉ misled := by simpa [flag] using trusted
        exact absurd (l.submitting e rfl trusted own) (by simp [flag])

end Ledger

theorem Turn.ledger (turn : Turn t t') (l : Ledger t.board.form t.forms t.orders t.misled) :
    Ledger t'.board.form t'.forms t'.orders t'.misled := by
  -- The new papers are read off the turn.
  have read {form : Option Editor} {forms : Nat} {orders : List Order} {misled : List Nat}
      (papers : t'.papers = (form, forms, orders, misled)) (l : Ledger form forms orders misled) :
      Ledger t'.board.form t'.forms t'.orders t'.misled := by
    simp only [Shift.papers, Prod.mk.injEq] at papers
    obtain ⟨rfl, rfl, rfl, rfl⟩ := papers
    exact l
  cases turn with
  | keeps same => exact read same l
  | opens closed fresh => exact read fresh l.opens
  | edits opened flag edited => exact read edited ((opened ▸ l).edits flag)
  | closes closed => exact read closed l.closes
  | submits opened idle valid sent => exact read sent ((opened ▸ l).submits idle rfl _)
  | succeeds out settled => exact read settled (l.settles _)
  | fails message out settled =>
    cases form : t.board.form with
    | none => exact read (by simpa [form, misleads] using settled) (l.settles _)
    | some e =>
      refine read ?_ ((form ▸ l).fails out)
      simpa [form, misleads, Except.isOk, Except.toBool] using settled

theorem Leads.ledger (leads : t.Leads t') (l : Ledger t.board.form t.forms t.orders t.misled) :
    Ledger t'.board.form t'.forms t'.orders t'.misled := by
  induction leads with
  | refl => exact l
  | tail _ step ih => exact step.turn.ledger ih

/-- At the beginning no form is open, and nothing was asked for. -/
theorem Ledger.begin : Ledger none 0 [] [] :=
  ⟨nofun, nofun, fun _ _ => Nat.zero_le 1, nofun⟩

theorem Reachable.ledger (ht : t.Reachable) : Ledger t.board.form t.forms t.orders t.misled := by
  rcases ht with ⟨grace, tasksOptions, metricsOptions, selected, now, leads⟩ |
    ⟨grace, tasksOptions, metricsOptions, selected, now, leads⟩
  · refine leads.ledger ?_
    have form : (started grace tasksOptions metricsOptions selected now).board.form = none :=
      congrArg (·.2.1) (desk_start now (fresh grace tasksOptions metricsOptions selected now).board)
    rw [form]
    exact Ledger.begin
  · exact leads.ledger Ledger.begin

/-- A key makes no more than one order, and makes it from the form that is open. -/
theorem orders_key (e : KeyEvent) (t : Shift) :
    ∃ more, (t.key e).orders = t.orders ++ more ∧ ∀ o ∈ more, o.form = t.forms := by
  refine ⟨_, rfl, fun o listed => ?_⟩
  obtain ⟨r, -, rfl⟩ := Option.map_eq_some_iff.mp (Option.mem_toList.mp listed)
  rfl

end Shift

/-! ### The open form and the outcomes -/

/-- Being told of a failure changes nothing but that the form is not submitting any more. -/
theorem Editor.told_eq_self_iff (e : Editor) :
    { e with submitting := false } = e ↔ e.submitting = false := by
  refine ⟨fun same => (congrArg Editor.submitting same).symm, fun flag => ?_⟩
  cases e
  cases flag
  rfl

/-- An outcome leaves the form that is open exactly as it is just when it is a failure and that form is
    not submitting, whichever form it belongs to. So a failure does if no order of the open form is
    out. In any case a failure leaves it open with its text, its focus and its errors. -/
theorem form_kept_by_outcome {t : Shift} (ht : t.Reachable) (i : Nat) (o : Order)
    (outcome : Created) :
    ((t.settle i o outcome).board.form = t.board.form ↔ t.board.form = none ∨
      outcome.isOk = false ∧ ∀ e, t.board.form = some e → e.submitting = false) ∧
    (outcome.isOk = false → t.ordersOf t.forms = [] →
      (t.settle i o outcome).board.form = t.board.form) ∧
    (outcome.isOk = false → ∀ e, t.board.form = some e →
      (t.settle i o outcome).board.form = some { e with submitting := false }) := by
  cases outcome with
  | ok task =>
    have closed : (t.settle i o (.ok task)).board.form = none := rfl
    refine ⟨⟨fun same => .inl (same.symm.trans closed), ?_⟩, nofun, nofun⟩
    rintro (none_open | ⟨failed, -⟩)
    · rw [closed, none_open]
    · simp [Except.isOk, Except.toBool] at failed
  | error message =>
    have told : (t.settle i o (.error message)).board.form =
        t.board.form.map (fun e => { e with submitting := false }) := rfl
    rw [told]
    cases form : t.board.form with
    | none => exact ⟨⟨.inl, fun _ => rfl⟩, fun _ _ => rfl, nofun⟩
    | some e =>
      have kept : some { e with submitting := false } = some e ↔ e.submitting = false :=
        Option.some_inj.trans e.told_eq_self_iff
      refine ⟨?_, fun _ own => kept.mpr ?_, fun _ _ opened => Option.some.inj opened ▸ rfl⟩
      · rw [Option.map_some, kept]
        simp [Except.isOk, Except.toBool]
      · exact Bool.eq_false_iff.mpr fun flag => ht.ledger.placed e form flag own

/-- A form was submitted and closed, and its task could not be created. The form that was opened next
    stays as it is, for nothing was asked for from it. -/
theorem failure_spares_next_form :
    let t := Shift.played ([.key (.char 'n')] ++ Shift.typed "abc" ++
      [.key .enter, .key .escape, .key (.char 'n')] ++ Shift.typed "de")
    t.Reachable ∧ t.ordersOf t.forms = [] ∧ ∃ o, t.orders = [o] ∧ t.open? = some 2 ∧ o.form = 1 ∧
      (t.settle 0 o (.error "down")).board.form = t.board.form := by
  intro t
  have ht : t.Reachable := (Shift.started_played _).reachable
  have own : t.ordersOf t.forms = [] := by decide +kernel
  obtain ⟨-, kept, -⟩ := form_kept_by_outcome ht 0 ⟨1, ⟨"abc", .email, 5⟩⟩ (.error "down")
  exact ⟨ht, own, _, by decide +kernel, by decide +kernel, rfl, kept rfl own⟩

/-- A form was submitted and closed, and another was opened. When the task of the first has been
    created, the second is closed, though it was never submitted. -/
theorem success_closes_next_form :
    let t := Shift.played ([.key (.char 'n')] ++ Shift.typed "abc" ++
      [.key .enter, .key .escape, .key (.char 'n')] ++ Shift.typed "de")
    t.Reachable ∧ ¬ ∀ i o outcome, t.orders[i]? = some o → t.open? ≠ some o.form →
      (t.settle i o outcome).board.form = t.board.form := by
  intro t
  refine ⟨(Shift.started_played _).reachable, fun spared => ?_⟩
  let task : Task := ⟨"ts_6", "abc", .email, .pending, 5, 0, Time.benchStart⟩
  have out : t.orders[0]? = some ⟨1, ⟨"abc", .email, 5⟩⟩ := by decide +kernel
  have elsewhere : t.open? ≠ some 1 := by decide +kernel
  have opened : t.board.form ≠ none := by decide +kernel
  exact opened (spared 0 _ (.ok task) out elsewhere).symm

/-- A form that is submitting has an order out. As long as a form is not misled, it has one order out
    at most; while it is open it is submitting just when that order is out, and until that order is
    settled no key makes another. -/
theorem one_order_unless_misled {t : Shift} (ht : t.Reachable) :
    (∀ e, t.board.form = some e → e.submitting = true → t.ordersOf t.forms ≠ []) ∧
    (∀ n, n ∉ t.misled → (t.ordersOf n).length ≤ 1) ∧
    (∀ e, t.board.form = some e → t.forms ∉ t.misled →
      (e.submitting = true ↔ ∃ o, t.ordersOf t.forms = [o])) ∧
    ∀ key, t.forms ∉ t.misled → t.ordersOf t.forms ≠ [] → (t.key key).orders = t.orders := by
  have ledger := ht.ledger
  refine ⟨ledger.placed, ledger.single, fun e opened trusted => ⟨fun flag => ?_, ?_⟩,
    fun key trusted out => ?_⟩
  · have one := ledger.single t.forms trusted
    have some_out := List.length_pos_iff.mpr (ledger.placed e opened flag)
    exact List.length_eq_one_iff.mp (Nat.le_antisymm one some_out)
  · rintro ⟨o, only⟩
    have out : t.ordersOf t.forms ≠ [] := by simp [only]
    exact ledger.submitting e opened trusted out
  · obtain ⟨more, orders, own⟩ := Shift.orders_key key t
    have one := ((Shift.turn_key key t).ledger ledger).single t.forms trusted
    rw [orders, fromForm_append, fromForm_own own, List.length_append] at one
    have some_out : 0 < (fromForm t.forms t.orders).length := List.length_pos_iff.mpr out
    have none_new : more = [] := List.eq_nil_of_length_eq_zero (by omega)
    rw [orders, none_new, List.append_nil]

/-- Of two forms that were submitted the first was closed. The other is not misled, and has one order
    out while it is submitting. -/
theorem each_form_has_its_order :
    let t := Shift.played ([.key (.char 'n')] ++ Shift.typed "abc" ++
      [.key .enter, .key .escape, .key (.char 'n')] ++ Shift.typed "def" ++ [.key .enter])
    t.Reachable ∧ t.misled = [] ∧ t.orders.map (·.form) = [1, 2] ∧
      (∃ o, t.ordersOf t.forms = [o]) ∧ (t.key { code := .enter }).orders = t.orders := by
  intro t
  have ht : t.Reachable := (Shift.started_played _).reachable
  obtain ⟨-, -, submitting, once⟩ := one_order_unless_misled ht
  have trusted : t.misled = [] := by decide +kernel
  have opened : t.board.form = some { form := ⟨"def", some .email, "5"⟩, submitting := true } := by
    decide +kernel
  have own : ∃ o, t.ordersOf t.forms = [o] := (submitting _ opened (by simp [trusted])).mp rfl
  refine ⟨ht, trusted, by decide +kernel, own, once _ (by simp [trusted]) ?_⟩
  obtain ⟨o, only⟩ := own
  simp [only]

/-- The task of the first of two forms could not be created, and the second, which was submitted, takes
    the failure for its own. So it is not submitting while its order is out, and can be submitted
    again. -/
theorem form_submitted_twice :
    let t := Shift.played ([.key (.char 'n')] ++ Shift.typed "abc" ++
      [.key .enter, .key .escape, .key (.char 'n')] ++ Shift.typed "def" ++
      [.key .enter, .settle 0 (.error "down")])
    t.Reachable ∧ ¬ (∀ e, t.board.form = some e →
        (e.submitting = true ↔ ∃ o, t.ordersOf t.forms = [o])) ∧
      ¬ ((t.key { code := .enter }).ordersOf t.forms).length ≤ 1 := by
  intro t
  have opened : t.board.form = some { form := ⟨"def", some .email, "5"⟩ } := by decide +kernel
  have out : t.ordersOf t.forms = [⟨2, ⟨"def", .email, 5⟩⟩] := by decide +kernel
  refine ⟨(Shift.started_played _).reachable, fun submitting => ?_, by decide +kernel⟩
  simpa using (submitting _ opened).mpr ⟨_, out⟩

end TaskWatch
