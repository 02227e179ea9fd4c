import TaskWatch.Proofs.Json.Numbers
import TaskWatch.Proofs.Json.Objects
import TaskWatch.Proofs.Time.Rfc3339

/-! Tasks, headline numbers and requests are read back from what is written of them.

    Each value is read from its own text, wherever it stands. A record is read from the texts of its
    members in any order, since what is known of it depends only on which of them were read. -/

namespace TaskWatch

open Json

/-! ### Values -/

theorem reads_text (wanted s : String) : Reads (readText wanted) (string s) s := by
  intro ws rest blank _
  have read := readText_quoted wanted blank (spells_flatMap s.toList) rest
  rw [String.ofList_toList] at read
  rw [toList_string]
  simpa [quoted] using read

theorem reads_variant {κ : Type} {choices : List (String × κ)} {word : String} {k : κ}
    (listed : choices.lookup word = some k) : Reads (readVariant choices) (string word) k := by
  intro ws rest blank bounded
  have read := reads_text "variant identifier" word [] rest blank_nil bounded
  rw [toList_string, List.nil_append] at read
  rw [toList_string, readVariant, skipSpace_blank blank]
  simp only [quoted, List.cons_append] at read ⊢
  rw [skipSpace_cons (by decide)]
  dsimp only
  rw [if_pos rfl, readChoice, read]
  simp only [bind, Except.bind, listed]
  rfl

theorem reads_kind (k : Kind) : Reads readKind (string k.word) k :=
  reads_variant (by cases k <;> rfl)

theorem reads_status (s : Status) : Reads readStatus (string s.word) s :=
  reads_variant (by cases s <;> rfl)

theorem reads_byte (n : UInt8) : Reads readByte (toString n) n := by
  intro ws rest blank bounded
  have read := readNatural_digits "u8" (Nat.le_of_lt_succ n.toNat_lt) (by decide) blank bounded
  have written : (toString n).toList = Text.digits n.toNat := String.toList_ofList ..
  rw [readByte, written, read]
  simp [bind, Except.bind, pure, Except.pure]

theorem reads_word (n : UInt32) : Reads readWord (toString n) n := by
  intro ws rest blank bounded
  have read := readNatural_digits "u32" (Nat.le_of_lt_succ n.toNat_lt) (by decide) blank bounded
  have written : (toString n).toList = Text.digits n.toNat := String.toList_ofList ..
  rw [readWord, written, read]
  simp [bind, Except.bind, pure, Except.pure]

theorem reads_stamp {t : Time.Stamp} (real : t.IsReal) : Reads readStamp (string t.text) t := by
  intro ws rest blank bounded
  rw [readStamp, reads_text _ t.text ws rest blank bounded]
  simp only [bind, Except.bind, real.read_text]
  rfl

/-! ### Records -/

/-- The members of a task as they are written. -/
def Task.fields (t : Task) : List (String × String) :=
  [ ("id", string t.id), ("name", string t.name), ("type", string t.kind.word),
    ("status", string t.status.word), ("priority", toString t.priority),
    ("retries", toString t.retries), ("createdAt", string t.created.text) ]

/-- What is known of a task, once the members of these names were read. -/
def Task.drafted (t : Task) (done : List String) : Task.Draft :=
  { id := known done "id" t.id, name := known done "name" t.name
    kind := known done "type" t.kind, status := known done "status" t.status
    priority := known done "priority" t.priority, retries := known done "retries" t.retries
    created := known done "createdAt" t.created }

/-- A task is filled in from its members. -/
def Task.filling (t : Task) (real : t.created.IsReal) : Filling Task.shape t.fields t where
  fill := t.drafted
  empty := rfl
  distinct := by simp [fields]
  read := by
    refine .cons (fills_entering (reads_text _ t.id) ?_ ?_) <|
      .cons (fills_entering (reads_text _ t.name) ?_ ?_) <|
      .cons (fills_entering (reads_kind t.kind) ?_ ?_) <|
      .cons (fills_entering (reads_status t.status) ?_ ?_) <|
      .cons (fills_entering (reads_byte t.priority) ?_ ?_) <|
      .cons (fills_entering (reads_word t.retries) ?_ ?_) <|
      .cons (fills_entering (reads_stamp real) ?_ ?_) .nil
    all_goals intro done
    all_goals first
      | intro fresh
        exact isSome_known fresh
      | simp [drafted]
  build done all := by
    simp only [fields, List.forall_mem_cons] at all
    obtain ⟨id, name, kind, status, priority, retries, created, -⟩ := all
    simp only [shape, drafted, need_known id, need_known name, need_known kind, need_known status,
      need_known priority, need_known retries, need_known created, bind, Except.bind]
    rfl

/-- The members of headline numbers as they are written. -/
def Metrics.fields (m : Metrics) : List (String × String) :=
  [ ("totalTasks", toString m.total), ("running", toString m.running),
    ("completedToday", toString m.completed), ("failed", toString m.failed) ]

/-- What is known of headline numbers, once the members of these names were read. -/
def Metrics.drafted (m : Metrics) (done : List String) : Metrics.Draft :=
  { total := known done "totalTasks" m.total, running := known done "running" m.running
    completed := known done "completedToday" m.completed, failed := known done "failed" m.failed }

/-- Headline numbers are filled in from their members. -/
def Metrics.filling (m : Metrics) : Filling Metrics.shape m.fields m where
  fill := m.drafted
  empty := rfl
  distinct := by simp [fields]
  read := by
    refine .cons (fills_entering (reads_word m.total) ?_ ?_) <|
      .cons (fills_entering (reads_word m.running) ?_ ?_) <|
      .cons (fills_entering (reads_word m.completed) ?_ ?_) <|
      .cons (fills_entering (reads_word m.failed) ?_ ?_) .nil
    all_goals intro done
    all_goals first
      | intro fresh
        exact isSome_known fresh
      | simp [drafted]
  build done all := by
    simp only [fields, List.forall_mem_cons] at all
    obtain ⟨total, running, completed, failed, -⟩ := all
    simp only [shape, drafted, need_known total, need_known running, need_known completed,
      need_known failed, bind, Except.bind]
    rfl

/-- The members of a request as they are written. -/
def Request.fields (r : Request) : List (String × String) :=
  [ ("name", string r.name), ("type", string r.kind.word), ("priority", toString r.priority) ]

/-- What is known of a request, once the members of these names were read. -/
def Request.drafted (r : Request) (done : List String) : Request.Draft :=
  { name := known done "name" r.name, kind := known done "type" r.kind
    priority := known done "priority" r.priority }

/-- A request is filled in from its members. -/
def Request.filling (r : Request) : Filling Request.shape r.fields r where
  fill := r.drafted
  empty := rfl
  distinct := by simp [fields]
  read := by
    refine .cons (fills_entering (reads_text _ r.name) ?_ ?_) <|
      .cons (fills_entering (reads_kind r.kind) ?_ ?_) <|
      .cons (fills_entering (reads_byte r.priority) ?_ ?_) .nil
    all_goals intro done
    all_goals first
      | intro fresh
        exact isSome_known fresh
      | simp [drafted]
  build done all := by
    simp only [fields, List.forall_mem_cons] at all
    obtain ⟨name, kind, priority, -⟩ := all
    simp only [shape, drafted, need_known name, need_known kind, need_known priority, bind,
      Except.bind]
    rfl

/-- A record is what is read from its own text. It is also what is read from any object that carries
    its members, each with the value of that text: in any order, with any blanks, with the names
    spelled in any way, and among members of other names that have any valid values. The creation
    time of a task must have a year of four digits and a time of day that a clock shows; so a leap second
    that follows another second than 59, which `with_nanosecond` can build, is left out. -/
theorem records_read_back :
    (∀ t : Task, t.created.IsReal → decode readTask t.text = .ok t ∧
      ∀ s, Carries t.fields s → decode readTask s = .ok t) ∧
    (∀ m : Metrics, decode readMetrics m.text = .ok m ∧
      ∀ s, Carries m.fields s → decode readMetrics s = .ok m) ∧
    (∀ r : Request, decode readRequest r.text = .ok r ∧
      ∀ s, Carries r.fields s → decode readRequest s = .ok r) := by
  refine ⟨fun t real => ?_, fun m => ?_, fun r => ?_⟩
  · have carries : Carries t.fields t.text :=
      carries_of_perm (holds_object (List.cons_ne_nil _ _)) (.refl _)
    exact ⟨(t.filling real).decode carries, fun s => (t.filling real).decode⟩
  · have carries : Carries m.fields m.text :=
      carries_of_perm (holds_object (List.cons_ne_nil _ _)) (.refl _)
    exact ⟨m.filling.decode carries, fun s => m.filling.decode⟩
  · have carries : Carries r.fields r.text :=
      carries_of_perm (holds_object (List.cons_ne_nil _ _)) (.refl _)
    exact ⟨r.filling.decode carries, fun s => r.filling.decode⟩

/-- A task of a leap second is read from an object that has its members in another order and one
    more, headline numbers and a request from objects in reverse order. -/
theorem leap_second_read_back :
    decode readTask (spreadObject
      [ ("retries", "0"), ("createdAt", "\"2016-12-31T23:59:60.500Z\""), ("note", "[\x7b\x7d]"),
        ("name", "\"\\\"\\u0001é\""), ("id", "\"7\""), ("type", "\"report\""),
        ("priority", "255"), ("status", "\"failed\"") ]) =
      .ok ⟨"7", "\"\x01é", .report, .failed, 255, 0, ⟨17166, 86399, 1500000000⟩⟩ ∧
    decode readMetrics (spreadObject (Metrics.fields ⟨4, 3, 2, 1⟩).reverse) = .ok ⟨4, 3, 2, 1⟩ ∧
    decode readRequest (spreadObject (Request.fields ⟨"", .email, 0⟩).reverse) =
      .ok ⟨"", .email, 0⟩ := by
  have lines {es fields : List (String × String)} (some_entry : es ≠ []) (perm : es.Perm fields) :=
    carries_of_perm (holds_spreadObject some_entry) perm
  refine ⟨(records_read_back.1 _ ⟨by decide, by decide, by decide +kernel⟩).2 _
      ⟨_, holds_spreadObject (List.cons_ne_nil _ _), by decide +kernel, ?_⟩,
    (records_read_back.2.1 _).2 _ (lines (by simp [Metrics.fields]) (List.reverse_perm _)),
    (records_read_back.2.2 _).2 _ (lines (by simp [Request.fields]) (List.reverse_perm _))⟩
  have valid : Valid .value "[\x7b\x7d]".toList :=
    .list (.lastElement blank_nil (.emptyRecord blank_nil) blank_nil)
  intro e listed unknown
  have note : e = ("note", "[\x7b\x7d]") := by
    revert e
    decide +kernel
  exact note ▸ valid

end TaskWatch
