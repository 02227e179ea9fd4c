import TaskWatch.Proofs.Json.Checked
import TaskWatch.Proofs.Task.Codec
import TaskWatch.Proofs.Text.Trimmed
import TaskWatch.Source.Server

/-! What is read from the answers of a server.

    A good answer lists tasks in one of two forms: bare, or as a member of an object that may say more.
    The list is read the same from both, since it passes the check that comes first, the bare form is
    read at once, and an object is never taken for a list. Of any other answer nothing is read, whatever
    its text is: its status and its text are the fault that is reported. -/

namespace TaskWatch.Source

open Json

variable {t : Task} {ts : List Task} {v l s : String} {fields : List (String × String)}

/-! ### Lists of tasks as they are written -/

/-- The text is an object with these entries in any order, each once, and besides them entries of other
    names with plain values. -/
def Presents (fields : List (String × String)) (v : String) : Prop :=
  ∃ es, IsObject es v.toList ∧ (es.filter (isKnown fields)).Perm fields ∧
    ∀ e ∈ es, isKnown fields e = false → Plain e.2.toList

/-- The text is the list of the records of the tasks, in their order. -/
def Lists (ts : List Task) (v : String) : Prop :=
  ∃ vs, List.Forall₂ (fun t v => Presents t.fields v) ts vs ∧ IsList vs v.toList

/-- The text is the list of the tasks, bare or as the member of an object, with blanks around it. -/
inductive Gives (ts : List Task) (s : String) : Prop
  | bare {v : String} {before after : List Char} (lists : Lists ts v) (b : Blank before)
    (a : Blank after) (around : s.toList = before ++ (v.toList ++ after))
  | wrapped {l v : String} {before after : List Char} (lists : Lists ts l)
    (object : Presents [("tasks", l)] v) (b : Blank before) (a : Blank after)
    (around : s.toList = before ++ (v.toList ++ after))

theorem presents_object {es : List (String × String)} (some_entry : es ≠ [])
    (members : (es.filter (isKnown fields)).Perm fields)
    (others : ∀ e ∈ es, isKnown fields e = false → Plain e.2.toList) : Presents fields (object es) :=
  ⟨es, isObject_object some_entry, members, others⟩

/-- A task is presented by its own text. -/
theorem presents_text (t : Task) : Presents t.fields t.text := by
  have known : ∀ e ∈ t.fields, isKnown t.fields e = true := fun e listed =>
    isKnown_iff.mpr ⟨e, listed, rfl⟩
  refine presents_object (List.cons_ne_nil _ _) ?_ fun e listed unknown => ?_
  · exact (List.filter_eq_self.mpr known) ▸ .refl _
  · exact absurd (known e listed) (by simp [unknown])

/-- Tasks are listed by the texts of each. -/
theorem lists_texts (ts : List Task) : Lists ts (list (ts.map Task.text)) :=
  ⟨_, List.forall₂_map_right_iff.mpr (List.forall₂_same.mpr fun t _ => presents_text t),
    isList_list _⟩

/-! ### The check -/

theorem plain_string (s : String) : Plain (string s).toList := by
  rw [toList_string]
  exact .text (spells_flatMap s.toList)

/-- The members of a task are plain. -/
theorem plain_fields (t : Task) : ∀ f ∈ t.fields, Plain f.2.toList := by
  have priority : Plain (toString t.priority).toList := by
    rw [show (toString t.priority).toList = Text.digits t.priority.toNat from String.toList_ofList ..]
    exact .number (Nat.lt_trans t.priority.toNat_lt (by decide))
  have retries : Plain (toString t.retries).toList := by
    rw [show (toString t.retries).toList = Text.digits t.retries.toNat from String.toList_ofList ..]
    exact .number (Nat.lt_trans t.retries.toNat_lt (by decide))
  simp only [Task.fields, List.forall_mem_cons]
  exact ⟨plain_string _, plain_string _, plain_string _, plain_string _, priority, retries,
    plain_string _, fun _ none => absurd none List.not_mem_nil⟩

/-- What is presented passes the check, if the entries asked for do one level further down. -/
theorem Presents.checks (depth : Nat) (presents : Presents fields v)
    (asked : ∀ f ∈ fields, Checks depth f.2) : Checks (depth + 1) v := by
  obtain ⟨es, object, members, others⟩ := presents
  refine object.checks fun e listed => ?_
  cases known : isKnown fields e with
  | true => exact asked e (members.mem_iff.mp (List.mem_filter.mpr ⟨listed, known⟩))
  | false => exact (others e listed known).checks depth

theorem Presents.begins (presents : Presents fields v) : ∃ more, v.toList = '\x7b' :: more := by
  obtain ⟨es, object, -⟩ := presents
  generalize v.toList = text at object
  cases object with
  | nothing => exact ⟨_, rfl⟩
  | members => exact ⟨_, rfl⟩

/-- What holds of whatever presents a task holds of all that stands in a list of tasks. -/
theorem Lists.forall_mem {vs : List String} {Q : String → Prop}
    (all : List.Forall₂ (fun t v => Presents t.fields v) ts vs)
    (each : ∀ t v, Presents (Task.fields t) v → Q v) : ∀ v ∈ vs, Q v := by
  induction all with
  | nil => nofun
  | cons here _ ih => exact List.forall_mem_cons.mpr ⟨each _ _ here, ih⟩

theorem begins_of_task {vs : List String}
    (all : List.Forall₂ (fun t v => Presents t.fields v) ts vs) : ∀ v ∈ vs, Begins v.toList := by
  refine Lists.forall_mem all fun t v presents => ?_
  obtain ⟨more, text⟩ := presents.begins
  exact ⟨_, more, text, by decide, by decide⟩

/-- A list of tasks passes where two more levels may open. -/
theorem Lists.checks (depth : Nat) (lists : Lists ts v) : Checks (depth + 2) v := by
  obtain ⟨vs, all, isList⟩ := lists
  refine isList.checks (Lists.forall_mem all fun t v presents => ?_) (begins_of_task all)
  exact presents.checks depth fun f listed => (plain_fields t f listed).checks depth

/-! ### Reading -/

/-- A record is read from whatever presents its members. -/
theorem Presents.reads {P α : Type} {shape : Shape P α} {a : α} (presents : Presents fields v)
    (F : Filling shape fields a) : Reads (readRecord shape) v a := by
  obtain ⟨es, object, members, others⟩ := presents
  exact F.reads object members fun e listed unknown => (others e listed unknown).valid

/-- A bare list of tasks is read. -/
theorem Lists.reads (lists : Lists ts v) (real : ∀ t ∈ ts, t.created.IsReal) :
    Reads readTasks v ts := by
  obtain ⟨vs, all, isList⟩ := lists
  refine reads_list isList ?_ (begins_of_task all)
  clear isList
  induction all with
  | nil => exact .nil
  | @cons t v ts vs presents _ ih =>
    obtain ⟨realHere, others⟩ := List.forall_mem_cons.mp real
    exact .cons (presents.reads (t.filling realHere)) (ih others)

/-- An object around a list of tasks is filled in from its one member. -/
def wrappingFilling (reads : Reads readTasks l ts) : Filling wrapping [("tasks", l)] ts where
  fill done := known done "tasks" ts
  empty := rfl
  distinct := by simp
  read := by
    refine .cons (fills_entering reads (fun done fresh => ?_) fun done => ?_) .nil
    · exact isSome_known fresh
    · simp
  build done all := need_known (all _ (List.mem_cons_self ..))

/-- An object is not taken for a list. -/
theorem readTasks_object {ws : List Char} (blank : Blank ws) (rest : List Char) :
    ∃ fault, readTasks (ws ++ '\x7b' :: rest) = .error fault := by
  rw [readTasks, readList, skipSpace_blank blank, skipSpace_cons (by decide)]
  exact ⟨_, rfl⟩

theorem readWrapped_object {ws : List Char} (blank : Blank ws) (rest : List Char) :
    readWrapped (ws ++ '\x7b' :: rest) = readRecord wrapping ('\x7b' :: rest) := by
  rw [readWrapped, skipSpace_blank blank, skipSpace_cons (by decide)]
  rfl

/-- The bare form is read as the list. -/
theorem reads_bare (lists : Lists ts v) (real : ∀ t ∈ ts, t.created.IsReal) :
    Reads readTaskList v ts := by
  intro ws rest blank bounded
  have checked := check_value (lists.checks 125) blank bounded
  rw [readTaskList, checked]
  dsimp only
  rw [lists.reads real ws rest blank bounded]

/-- The wrapped form is read as the list. -/
theorem reads_wrapped (lists : Lists ts l) (object : Presents [("tasks", l)] v)
    (real : ∀ t ∈ ts, t.created.IsReal) : Reads readTaskList v ts := by
  intro ws rest blank bounded
  have checks : Checks deepest v := object.checks 126 fun f listed => by
    obtain rfl := List.mem_singleton.mp listed
    exact lists.checks 124
  have reads := object.reads (wrappingFilling (lists.reads real)) [] rest blank_nil bounded
  have checked := check_value checks blank bounded
  obtain ⟨more, text⟩ := object.begins
  rw [text, List.cons_append] at checked reads ⊢
  obtain ⟨fault, refused⟩ := readTasks_object blank (more ++ rest)
  rw [readTaskList, checked]
  dsimp only
  rw [refused]
  dsimp only
  rw [List.nil_append] at reads
  rw [readWrapped_object blank, reads]

/-- Whichever form the tasks are given in, they are read as the list of them. -/
theorem Gives.decode (gives : Gives ts s) (real : ∀ t ∈ ts, t.created.IsReal) :
    decode readTaskList s = .ok ts := by
  cases gives with
  | bare lists b a around => exact (reads_bare lists real).decode b a around
  | wrapped lists object b a around => exact (reads_wrapped lists object real).decode b a around

/-! ### Answers -/

/-- The fault that tells a status and, unless it is empty, a message. -/
def Fault.ofStatus (status : Nat) (message : String) : Fault :=
  .unexpected (if message = "" then "HTTP " ++ toString status
    else "HTTP " ++ toString status ++ ": " ++ message)

theorem refusal_eq (status : Nat) (text : String) :
    refusal status text = .ofStatus status (Text.trimmed text) := by
  unfold refusal Fault.ofStatus
  by_cases empty : Text.trimmed text = ""
  · simp [empty]
  · simp [empty, String.append_assoc]

/-- What a good answer is read as. -/
theorem Answer.decode_good {α : Type} {a : Answer} {read : Reader α} {value : α}
    (good : 200 ≤ a.status ∧ a.status ≤ 299) (text : Json.decode read a.text = .ok value) :
    a.decode read = .ok value := by
  have status : isGood a.status = true := by simp [isGood, good]
  rw [Answer.decode, Answer.content, if_pos status]
  simp only [bind, Except.bind, text]
  rfl

/-- Nothing is read from an answer that is not good. -/
theorem Answer.decode_bad {α : Type} {a : Answer} (read : Reader α)
    (bad : a.status < 200 ∨ 299 < a.status) :
    a.decode read = .error (.ofStatus a.status (Text.trimmed a.text)) := by
  have status : isGood a.status = false := by
    simp only [isGood, Bool.and_eq_false_iff, decide_eq_false_iff_not]
    omega
  rw [Answer.decode, Answer.content, status, refusal_eq]
  rfl

/-- The tasks of a good answer are read alike in both forms, and the headline numbers are those of just
    these tasks. Any other answer is the same fault whatever is asked, with the status and the trimmed
    text in it, though the text be a list of tasks. What comes of a reply is what comes of the answer
    that arrives of it. -/
theorem answers_read_alike :
    (∀ (a : Answer) (ts : List Task), 200 ≤ a.status ∧ a.status ≤ 299 →
      (∀ t ∈ ts, t.created.IsReal) → Gives ts a.text →
      a.tasks = .ok ts ∧ a.metrics = .ok (Metrics.ofTasks ts)) ∧
    (∀ a : Answer, a.status < 200 ∨ 299 < a.status → ∃ message, Text.Trims a.text message ∧
      a.tasks = .error (.ofStatus a.status message) ∧
      a.metrics = .error (.ofStatus a.status message) ∧
      a.created = .error (.ofStatus a.status message)) ∧
    (∀ (r : Reply) (a : Answer), r.answer? = some a →
      r.tasks = a.tasks ∧ r.metrics = a.metrics ∧ r.created = a.created) := by
  refine ⟨fun a ts good real gives => ?_, fun a bad => ?_, fun r a arrives => ?_⟩
  · have tasks : a.tasks = .ok ts := a.decode_good good (gives.decode real)
    exact ⟨tasks, by rw [Answer.metrics, tasks]; rfl⟩
  · have tasks : a.tasks = .error (.ofStatus a.status (Text.trimmed a.text)) := a.decode_bad _ bad
    exact ⟨_, Text.trims_trimmed a.text, tasks, by rw [Answer.metrics, tasks]; rfl,
      a.decode_bad _ bad⟩
  · simp only [Reply.tasks, Reply.metrics, Reply.created, Reply.read, arrives, and_self]

/-- A task of a leap second is read from both forms, with other members on both sides of the list. A
    list of no tasks is refused if the status is another, and reported without its blanks. -/
theorem leap_second_listed :
    let t : Task := ⟨"7", "\"\x01é", .report, .failed, 255, 0, ⟨17166, 86399, 1500000000⟩⟩
    (Answer.tasks ⟨200, list [t.text]⟩ = .ok [t] ∧
      Answer.metrics ⟨299, object [("note", "null"), ("tasks", list [t.text]), ("count", "1")]⟩ =
        .ok ⟨1, 0, 0, 1⟩) ∧
    (∃ message, Text.Trims " []\n" message ∧
      Answer.created ⟨300, " []\n"⟩ = .error (.ofStatus 300 message)) ∧
    Reply.tasks (.response 404 "[]".toUTF8.toList) = Answer.tasks ⟨404, "[]"⟩ := by
  intro t
  have lists : Lists [t] (list [t.text]) := lists_texts [t]
  have real : ∀ u ∈ [t], u.created.IsReal := by
    intro u listed
    obtain rfl := List.mem_singleton.mp listed
    exact ⟨by decide, by decide, by decide +kernel⟩
  have object : Presents [("tasks", list [t.text])]
      (object [("note", "null"), ("tasks", list [t.text]), ("count", "1")]) := by
    refine presents_object (List.cons_ne_nil _ _) (by simp [isKnown]) fun e listed unknown => ?_
    simp only [List.mem_cons, List.not_mem_nil, or_false] at listed
    rcases listed with rfl | rfl | rfl
    · exact .null
    · simp [isKnown] at unknown
    · exact Plain.number (n := 1) (by decide)
  have bare : Gives [t] (list [t.text]) := .bare lists blank_nil blank_nil (by simp)
  have wrapped : Gives [t] (Json.object [("note", "null"), ("tasks", list [t.text]), ("count", "1")]) :=
    .wrapped lists object blank_nil blank_nil (by simp)
  have numbers : Metrics.ofTasks [t] = ⟨1, 0, 0, 1⟩ := by decide
  have arrives : (Reply.response 404 "[]".toUTF8.toList).answer? = some ⟨404, "[]"⟩ := by
    decide +kernel
  obtain ⟨message, trims, -, -, created⟩ := answers_read_alike.2.1 ⟨300, " []\n"⟩ (.inr (by decide))
  refine ⟨⟨?_, ?_⟩, ⟨message, trims, created⟩, ?_⟩
  · exact (answers_read_alike.1 ⟨200, _⟩ [t] (by decide) real bare).1
  · exact numbers ▸ (answers_read_alike.1 ⟨299, _⟩ [t] (by decide) real wrapped).2
  · exact (answers_read_alike.2.2 _ _ arrives).1

end TaskWatch.Source
