import Mathlib.Data.List.Forall2
import TaskWatch.Proofs.Json.Strings
import TaskWatch.Task.Codec

/-! Objects that are read into a record.

    An object holds entries, each a name and the text of a value (`Holds`), with blanks between all tokens
    and with the names spelled in any way. A record can be read from it if each of its members is read
    from the text that the record gives it (`Filling`): then the order of the entries does not matter,
    nor do entries of other names, which are passed over. -/

namespace TaskWatch.Json

/-! ### Objects as they are written -/

/-- A member of an object: a name, a colon and a value. -/
inductive IsMember : String × String → List Char → Prop
  | of {name value : String} {cs ws₁ ws₂ ws₃ ws₄ : List Char} (b₁ : Blank ws₁)
    (spells : Spells cs name.toList) (b₂ : Blank ws₂) (b₃ : Blank ws₃) (b₄ : Blank ws₄) :
    IsMember (name, value) (ws₁ ++ quoted cs (ws₂ ++ ':' :: (ws₃ ++ (value.toList ++ ws₄))))

/-- One member or more, with commas between them. -/
inductive AreMembers : List (String × String) → List Char → Prop
  | last {e : String × String} {cs : List Char} (member : IsMember e cs) : AreMembers [e] cs
  | more {e : String × String} {es : List (String × String)} {cs ds : List Char}
    (member : IsMember e cs) (others : AreMembers es ds) : AreMembers (e :: es) (cs ++ ',' :: ds)

/-- The text is an object that holds these entries in this order. -/
inductive Holds : List (String × String) → List Char → Prop
  | nothing {before inside after : List Char} (b : Blank before) (i : Blank inside)
    (a : Blank after) : Holds [] (before ++ '\x7b' :: (inside ++ '\x7d' :: after))
  | members {es : List (String × String)} {cs before after : List Char} (b : Blank before)
    (members : AreMembers es cs) (a : Blank after) :
    Holds es (before ++ '\x7b' :: (cs ++ '\x7d' :: after))

/-- The same without blanks around it. -/
inductive IsObject : List (String × String) → List Char → Prop
  | nothing {ws : List Char} (b : Blank ws) : IsObject [] ('\x7b' :: (ws ++ ['\x7d']))
  | members {es : List (String × String)} {cs : List Char} (members : AreMembers es cs) :
    IsObject es ('\x7b' :: (cs ++ ['\x7d']))

variable {P α : Type} {cs ds rest ws : List Char} {e f : String × String}
  {es fields : List (String × String)} {a : α} {shape : Shape P α}

/-- An object may have blanks around it. -/
theorem holds_iff : Holds es cs ↔ ∃ before object after, Blank before ∧ IsObject es object ∧
    Blank after ∧ cs = before ++ (object ++ after) := by
  constructor
  · intro holds
    cases holds with
    | nothing b i a => exact ⟨_, _, _, b, .nothing i, a, by simp⟩
    | members b members a => exact ⟨_, _, _, b, .members members, a, by simp⟩
  · rintro ⟨before, object, after, b, isObject, a, rfl⟩
    cases isObject with
    | nothing i => simpa using Holds.nothing b i a
    | members members => simpa using Holds.members b members a

/-! ### Objects that are written -/

/-- Entries that are written one after another, with a comma and blanks in between. -/
theorem areMembers_intercalate {write : String × String → String} {comma : String}
    {gap : List Char} (between : comma.toList = ',' :: gap) (blank : Blank gap)
    (member : ∀ e ws ws', Blank ws → Blank ws' → IsMember e (ws ++ ((write e).toList ++ ws')))
    {ws' : List Char} (blank' : Blank ws') :
    ∀ {es : List (String × String)} {ws : List Char}, es ≠ [] → Blank ws →
      AreMembers es (ws ++ ((comma.intercalate (es.map write)).toList ++ ws'))
  | [], _, some_entry, _ => (some_entry rfl).elim
  | [e], ws, _, front => by
    rw [List.map_singleton, String.intercalate_singleton]
    exact .last (member e ws ws' front blank')
  | e :: f :: es, ws, _, front => by
    have others : AreMembers (f :: es)
        (gap ++ ((comma.intercalate ((f :: es).map write)).toList ++ ws')) :=
      areMembers_intercalate between blank member blank' (List.cons_ne_nil _ _) blank
    have all := AreMembers.more (member e ws [] front blank_nil) others
    rw [List.append_nil] at all
    rw [List.map_cons, String.intercalate_cons_of_ne_nil (by simp), String.toList_append,
      String.toList_append, between]
    simpa using all

/-- An entry is written as a member. -/
theorem isMember_entry (name value : String) {gap ws ws' : List Char} (gapBlank : Blank gap)
    (b : Blank ws) (b' : Blank ws') :
    IsMember (name, value) (ws ++ ((string name).toList ++ (':' :: (gap ++ (value.toList ++ ws'))))) := by
  rw [toList_string]
  have member : IsMember (name, value) _ :=
    .of b (spells_flatMap name.toList) blank_nil gapBlank b'
  simpa [quoted] using member

theorem isObject_object (some_entry : es ≠ []) : IsObject es (object es).toList := by
  have member : ∀ (e : String × String) ws ws', Blank ws → Blank ws' →
      IsMember e (ws ++ ((string e.1 ++ ":" ++ e.2).toList ++ ws')) := fun e ws ws' b b' => by
    simpa using isMember_entry e.1 e.2 blank_nil b b'
  have comma : ",".toList = ',' :: [] := rfl
  have members := areMembers_intercalate comma blank_nil member blank_nil some_entry blank_nil
  have whole := IsObject.members members
  rw [object, String.toList_append, String.toList_append]
  simpa using whole

theorem holds_object (some_entry : es ≠ []) : Holds es (object es).toList :=
  holds_iff.mpr ⟨[], _, [], blank_nil, isObject_object some_entry, blank_nil, by simp⟩

/-- So is an object that is spread over several lines. -/
theorem holds_spreadObject (some_entry : es ≠ []) : Holds es (spreadObject es).toList := by
  have line : Blank ['\n'] := by simp [Blank, isSpace]
  have space : Blank [' '] := by simp [Blank, isSpace]
  have member : ∀ (e : String × String) ws ws', Blank ws → Blank ws' →
      IsMember e (ws ++ (("  " ++ string e.1 ++ ": " ++ e.2).toList ++ ws')) := fun e ws ws' b b' => by
    have front : Blank (ws ++ [' ', ' ']) := fun c listed => by
      rcases List.mem_append.mp listed with listed | listed
      · exact b c listed
      · simp_all [isSpace]
    simpa using isMember_entry e.1 e.2 space front b'
  have comma : ",\n".toList = ',' :: ['\n'] := rfl
  have members := areMembers_intercalate comma line member line some_entry line
  have whole := Holds.members blank_nil members blank_nil
  rw [spreadObject, String.toList_append, String.toList_append]
  simpa using whole

/-! ### Reading one member -/

/-- The reader takes the text of a value for this, wherever it stands. -/
def Reads (read : Reader α) (value : String) (a : α) : Prop :=
  ∀ ws rest, Blank ws → Bounded rest → read (ws ++ (value.toList ++ rest)) = .ok (a, rest)

theorem Reads.entering {read : Reader α} {value : String} (reads : Reads read value a)
    (set : P → α → P) (known : P) : Reads (entering read set known) value (set known a) := by
  intro ws rest blank bounded
  rw [TaskWatch.entering, reads ws rest blank bounded]
  rfl

/-- What is asked of a member, where what is known depends on the names of the members read. -/
def Fills (fill : List String → P) (f : String × String) (m : Member P) : Prop :=
  m.name = f.1 ∧ ∀ done, f.1 ∉ done →
    m.isSet (fill done) = false ∧ Reads (m.read (fill done)) f.2 (fill (f.1 :: done))

/-- A member is entered among what is known, if its text is read. -/
theorem fills_entering {read : Reader α} {value name : String} {set : P → α → P}
    {isSet : P → Bool} {optional : Bool} {fill : List String → P} (reads : Reads read value a)
    (unset : ∀ done, name ∉ done → isSet (fill done) = false)
    (sets : ∀ done, set (fill done) a = fill (name :: done)) :
    Fills fill (name, value) { name, isSet, read := entering read set, optional } :=
  ⟨rfl, fun done fresh => ⟨unset done fresh, sets done ▸ reads.entering set (fill done)⟩⟩

/-- How a record is filled, member by member, from the texts of its members. -/
structure Filling (shape : Shape P α) (fields : List (String × String)) (a : α) where
  /-- What is known once the members of these names were read. -/
  fill : List String → P
  empty : fill [] = shape.empty
  distinct : (fields.map Prod.fst).Nodup
  read : List.Forall₂ (Fills fill) fields shape.members
  build : ∀ done, (∀ f ∈ fields, f.1 ∈ done) → shape.build (fill done) = .ok a

/-- The entry has the name of a member. -/
def isKnown (fields : List (String × String)) (e : String × String) : Bool :=
  (fields.map Prod.fst).contains e.1

theorem isKnown_iff : isKnown fields e = true ↔ ∃ f ∈ fields, f.1 = e.1 := by
  simp [isKnown]

/-- Of the members that the fields are matched with, the one of a name is found. -/
theorem find?_of_forall₂ {R : String × String → Member P → Prop} {members : List (Member P)}
    (all : List.Forall₂ (fun f m => m.name = f.1 ∧ R f m) fields members)
    (distinct : (fields.map Prod.fst).Nodup) :
    (∀ f ∈ fields, ∃ m, members.find? (fun m => m.name == f.1) = some m ∧ R f m) ∧
    ∀ name, (∀ f ∈ fields, f.1 ≠ name) → members.find? (fun m => m.name == name) = none := by
  induction all with
  | nil => exact ⟨fun _ listed => (List.not_mem_nil listed).elim, fun _ _ => rfl⟩
  | @cons f m fields members here _ ih =>
    obtain ⟨named, related⟩ := here
    rw [List.map_cons, List.nodup_cons] at distinct
    obtain ⟨found, missing⟩ := ih distinct.2
    refine ⟨fun f' listed => ?_, fun name other => ?_⟩
    · rcases List.mem_cons.mp listed with rfl | listed
      · exact ⟨m, List.find?_cons_of_pos (by simp [named]), related⟩
      · have apart : f.1 ≠ f'.1 := fun same => distinct.1 (same ▸ List.mem_map_of_mem listed)
        obtain ⟨m', there, related'⟩ := found f' listed
        exact ⟨m', by rw [List.find?_cons_of_neg (by simp [named, apart]), there], related'⟩
    · have apart : f.1 ≠ name := other f (List.mem_cons_self ..)
      rw [List.find?_cons_of_neg (by simp [named, apart])]
      exact missing name fun f' listed => other f' (List.mem_cons_of_mem _ listed)

theorem readColon_blank (blank : Blank ws) (rest : List Char) :
    readColon (ws ++ ':' :: rest) = .ok rest := by
  rw [readColon, skipSpace_blank blank, skipSpace_cons (by decide)]
  rfl

namespace Filling

/-- A member of the record is read, unless it was before. -/
theorem readMember_known (F : Filling shape fields a) (listed : f ∈ fields) {done : List String}
    (fresh : f.1 ∉ done) {ws₂ ws₃ : List Char} (b₂ : Blank ws₂) (b₃ : Blank ws₃)
    (bounded : Bounded rest) :
    readMember shape.members (F.fill done) f.1 (ws₂ ++ ':' :: (ws₃ ++ (f.2.toList ++ rest))) =
      .ok (F.fill (f.1 :: done), rest) := by
  obtain ⟨m, found, read⟩ := (find?_of_forall₂ F.read F.distinct).1 f listed
  obtain ⟨unset, reads⟩ := read done fresh
  rw [readMember, found]
  dsimp only
  rw [if_neg (by simp [unset]), readColon_blank b₂]
  exact reads ws₃ rest b₃ bounded

/-- A member that the record does not have is passed over. -/
theorem readMember_unknown (F : Filling shape fields a) (unknown : isKnown fields e = false)
    (valid : Valid .value e.2.toList) (done : List String) {ws₂ ws₃ : List Char} (b₂ : Blank ws₂)
    (b₃ : Blank ws₃) (bounded : Bounded rest) :
    readMember shape.members (F.fill done) e.1 (ws₂ ++ ':' :: (ws₃ ++ (e.2.toList ++ rest))) =
      .ok (F.fill done, rest) := by
  have other : ∀ f ∈ fields, f.1 ≠ e.1 := fun f listed same =>
    Bool.false_ne_true (unknown.symm.trans (isKnown_iff.mpr ⟨f, listed, same⟩))
  rw [readMember, (find?_of_forall₂ F.read F.distinct).2 e.1 other]
  dsimp only
  rw [readColon_blank b₂]
  show (do let rest ← skip (ws₃ ++ (e.2.toList ++ rest)); return (F.fill done, rest)) = _
  rw [skip_value b₃ valid bounded]
  rfl

/-- The names of the members that were read, after another entry. -/
def taking (fields : List (String × String)) (e : String × String) (done : List String) :
    List String :=
  if isKnown fields e then e.1 :: done else done

/-- An entry is a member of the record that was not read before, or a valid value of another name. -/
structure Next (fields : List (String × String)) (done : List String) (e : String × String) :
    Prop where
  known : isKnown fields e = true → e ∈ fields ∧ e.1 ∉ done
  unknown : isKnown fields e = false → Valid .value e.2.toList

theorem readMember_next (F : Filling shape fields a) {done : List String} (next : Next fields done e)
    {ws₂ ws₃ : List Char} (b₂ : Blank ws₂) (b₃ : Blank ws₃) (bounded : Bounded rest) :
    readMember shape.members (F.fill done) e.1 (ws₂ ++ ':' :: (ws₃ ++ (e.2.toList ++ rest))) =
      .ok (F.fill (taking fields e done), rest) := by
  unfold taking
  split
  · rename_i known
    obtain ⟨listed, fresh⟩ := next.known known
    exact F.readMember_known listed fresh b₂ b₃ bounded
  · rename_i unknown
    have unknown := Bool.eq_false_iff.mpr unknown
    exact F.readMember_unknown unknown (next.unknown unknown) done b₂ b₃ bounded

/-- What stands in front of a member that is not the first. -/
def lead (first : Bool) : List Char := if first then [] else [',']

theorem moreMembers_lead {ws₁ : List Char} (first : Bool) (blank : Blank ws) (b₁ : Blank ws₁)
    (cs rest : List Char) :
    moreMembers first (ws ++ (lead first ++ (ws₁ ++ quoted cs rest))) =
      .ok (true, quoted cs rest) := by
  cases first with
  | true =>
    rw [moreMembers, skipSpace_blank blank]
    rw [lead, if_pos rfl, List.nil_append, skipSpace_blank b₁, quoted, skipSpace_cons (by decide)]
    rfl
  | false =>
    rw [moreMembers, skipSpace_blank blank, lead, if_neg Bool.false_ne_true, List.singleton_append,
      skipSpace_cons (by decide)]
    simp [skipSpace_blank b₁, quoted, skipSpace_cons (c := '"') (by decide)]

/-- One member is read with all that belongs to it. Blanks may be left after it. -/
theorem readMembers_next (F : Filling shape fields a) {done : List String}
    (member : IsMember e cs) (next : Next fields done e) (fuel : Nat) (first : Bool)
    (blank : Blank ws) (bounded : Bounded rest) :
    ∃ ws', Blank ws' ∧
      readMembers shape.members (fuel + 1) first (F.fill done) (ws ++ (lead first ++ (cs ++ rest))) =
        readMembers shape.members fuel false (F.fill (taking fields e done)) (ws' ++ rest) := by
  obtain ⟨b₁, spells, b₂, b₃, b₄⟩ := member
  rename_i name value cs ws₁ ws₂ ws₃ ws₄
  refine ⟨ws₄, b₄, ?_⟩
  have text := readText_quoted "field identifier" blank_nil spells
    (ws₂ ++ ':' :: (ws₃ ++ (value.toList ++ (ws₄ ++ rest))))
  have read := F.readMember_next next b₂ b₃ (bounded_blank b₄ bounded)
  rw [List.nil_append, String.ofList_toList] at text
  simp only [quoted, List.append_assoc, List.cons_append] at text ⊢
  rw [readMembers, ← quoted, moreMembers_lead first blank b₁]
  rw [← quoted] at text
  simp only [bind, Except.bind, if_true, text, read]

/-- No member follows when the object ends. -/
theorem readMembers_end {known : P} {members : List (Member P)} (fuel : Nat) (first : Bool)
    (blank : Blank ws) (rest : List Char) :
    readMembers members (fuel + 1) first known (ws ++ '\x7d' :: rest) = .ok (known, rest) := by
  rw [readMembers, moreMembers, skipSpace_blank blank, skipSpace_cons (by decide)]
  rfl

/-- After an entry is taken, the others are still to come. -/
theorem Next.taking {done : List String} (next : Next fields done f)
    (apart : isKnown fields e = true → isKnown fields f = true → f.1 ≠ e.1) :
    Next fields (taking fields e done) f where
  known known := by
    obtain ⟨listed, fresh⟩ := next.known known
    refine ⟨listed, ?_⟩
    unfold Filling.taking
    split
    · rename_i taken
      exact fun listed => (List.mem_cons.mp listed).elim (apart taken known) fresh
    · exact fresh
  unknown := next.unknown

theorem mem_taking {done : List String} {name : String} : name ∈ taking fields e done ↔
    name ∈ done ∨ isKnown fields e = true ∧ e.1 = name := by
  unfold taking
  split
  · rename_i known
    simp [known, or_comm, eq_comm]
  · rename_i unknown
    simp [unknown]

/-- All members are read, in whatever order they stand, and the names of those that the record has are
    taken. -/
theorem readMembers_all (F : Filling shape fields a) (members : AreMembers es cs) :
    ∀ {done : List String} (fuel : Nat) (first : Bool) {ws : List Char} (rest : List Char), Blank ws →
      ((es.filter (isKnown fields)).map Prod.fst).Nodup → (∀ e ∈ es, Next fields done e) →
      cs.length < fuel → ∃ done',
        readMembers shape.members fuel first (F.fill done)
          (ws ++ (lead first ++ (cs ++ '\x7d' :: rest))) = .ok (F.fill done', rest) ∧
        ∀ name, name ∈ done' ↔
          name ∈ done ∨ ∃ e ∈ es, isKnown fields e = true ∧ e.1 = name := by
  induction members with
  | @last e cs member =>
    intro done fuel first ws rest blank _ next enough
    have some_text : 0 < cs.length := by
      obtain ⟨b₁, spells, b₂, b₃, b₄⟩ := member
      simp only [quoted, List.length_append, List.length_cons]
      omega
    obtain ⟨fuel, rfl⟩ : ∃ n, fuel = n + 2 := ⟨fuel - 2, by omega⟩
    obtain ⟨ws', blank', read⟩ := F.readMembers_next member (next e (List.mem_cons_self ..)) (fuel + 1)
      first blank (bounded_brace rest)
    refine ⟨_, read.trans (readMembers_end fuel false blank' rest), fun name => ?_⟩
    simp [mem_taking]
  | @more e es cs ds member _ ih =>
    intro done fuel first ws rest blank distinct next enough
    simp only [List.length_append, List.length_cons] at enough
    obtain ⟨fuel, rfl⟩ : ∃ n, fuel = n + 1 := ⟨fuel - 1, by omega⟩
    obtain ⟨ws', blank', read⟩ := F.readMembers_next member (next e (List.mem_cons_self ..)) fuel
      first blank (bounded_comma (ds ++ '\x7d' :: rest))
    have others : ((es.filter (isKnown fields)).map Prod.fst).Nodup ∧
        (isKnown fields e = true → ∀ f ∈ es, isKnown fields f = true → f.1 ≠ e.1) := by
      cases known : isKnown fields e with
      | false => simpa [known] using distinct
      | true =>
        rw [List.filter_cons_of_pos known, List.map_cons, List.nodup_cons] at distinct
        refine ⟨distinct.2, fun _ f listed known' same => distinct.1 ?_⟩
        exact same ▸ List.mem_map_of_mem (List.mem_filter.mpr ⟨listed, known'⟩)
    obtain ⟨done', read', names⟩ := ih fuel false rest blank' others.1
      (fun f listed => (next f (List.mem_cons_of_mem _ listed)).taking
        fun known => others.2 known f listed) (by omega)
    refine ⟨done', ?_, fun name => ?_⟩
    · rw [List.append_assoc, List.cons_append, read]
      exact read'
    · rw [names, mem_taking]
      simp [or_assoc]

end Filling

/-- The text is an object that holds these entries, each once and in any order, and besides them
    whatever valid values of other names. -/
def Carries (fields : List (String × String)) (s : String) : Prop :=
  ∃ es, Holds es s.toList ∧ (es.filter (isKnown fields)).Perm fields ∧
    ∀ e ∈ es, isKnown fields e = false → Valid .value e.2.toList

theorem carries_of_perm {s : String} (holds : Holds es s.toList) (members : es.Perm fields) :
    Carries fields s := by
  have known : ∀ e ∈ es, isKnown fields e = true := fun e listed =>
    isKnown_iff.mpr ⟨e, members.mem_iff.mp listed, rfl⟩
  refine ⟨es, holds, ?_, fun e listed unknown => ?_⟩
  · rwa [List.filter_eq_self.mpr known]
  · exact absurd (known e listed) (by simp [unknown])

/-- A record is read from an object that has its members with the texts that they have in it, in any
    order and among valid values of other names. -/
theorem Filling.reads (F : Filling shape fields a) {v : String} (object : IsObject es v.toList)
    (members : (es.filter (isKnown fields)).Perm fields)
    (others : ∀ e ∈ es, isKnown fields e = false → Valid .value e.2.toList) :
    Reads (readRecord shape) v a := by
  intro ws rest blank _
  have known_listed : ∀ e ∈ es, isKnown fields e = true → e ∈ fields := fun e listed known =>
    members.mem_iff.mp (List.mem_filter.mpr ⟨listed, known⟩)
  have next : ∀ e ∈ es, Filling.Next fields [] e := fun e listed =>
    ⟨fun known => ⟨known_listed e listed known, List.not_mem_nil⟩, others e listed⟩
  have distinct : ((es.filter (isKnown fields)).map Prod.fst).Nodup :=
    (members.map Prod.fst).nodup_iff.mpr F.distinct
  -- Whatever the object holds, all members are read from it.
  obtain ⟨inside, done, text, read, all⟩ : ∃ inside done, v.toList ++ rest = '\x7b' :: inside ∧
      readMembers shape.members (inside.length + 1) true (F.fill []) inside =
        .ok (F.fill done, rest) ∧ ∀ f ∈ fields, f.1 ∈ done := by
    generalize v.toList = text at object
    cases object with
    | @nothing ws b =>
      refine ⟨ws ++ '\x7d' :: rest, [], by simp, Filling.readMembers_end _ true b _,
        fun f listed => ?_⟩
      exact absurd (members.mem_iff.mpr listed) List.not_mem_nil
    | @members _ cs are =>
      obtain ⟨done, read, names⟩ := F.readMembers_all are ((cs ++ '\x7d' :: rest).length + 1) true
        rest blank_nil distinct next (by rw [List.length_append]; omega)
      refine ⟨cs ++ '\x7d' :: rest, done, by simp, read, fun f listed => (names f.1).mpr (.inr ?_)⟩
      obtain ⟨listed, known⟩ := List.mem_filter.mp (members.mem_iff.mpr listed)
      exact ⟨f, listed, known, rfl⟩
  rw [readRecord, text, skipSpace_blank blank, skipSpace_cons (by decide)]
  dsimp only
  rw [if_pos rfl, ← F.empty, read]
  show shape.finish (F.fill done) rest = _
  rw [Shape.finish, F.build done all]

/-- What is read wherever it stands is read from a text that has only blanks around it. -/
theorem Reads.decode {read : Reader α} {v s : String} (reads : Reads read v a)
    {before after : List Char} (b : Blank before) (ba : Blank after)
    (around : s.toList = before ++ (v.toList ++ after)) : decode read s = .ok a := by
  have bounded : Bounded after := by
    simpa using bounded_blank ba (show Bounded [] from nofun)
  have blank : skipSpace after = [] := by
    rw [← List.append_nil after, skipSpace_blank ba]
    rfl
  rw [Json.decode, around, reads before after b bounded]
  show (if (skipSpace after).isEmpty then _ else _) = _
  rw [blank]
  rfl

/-- A record is read from any object that carries its members with the texts that they have in it. -/
theorem Filling.decode (F : Filling shape fields a) {s : String} (carries : Carries fields s) :
    decode (readRecord shape) s = .ok a := by
  obtain ⟨es, holds, members, others⟩ := carries
  obtain ⟨before, object, after, b, isObject, ba, around⟩ := holds_iff.mp holds
  have reads : Reads (readRecord shape) (String.ofList object) a :=
    F.reads (by rwa [String.toList_ofList]) members others
  exact reads.decode b ba (by rw [String.toList_ofList, around])

/-! ### Filling in what is known -/

/-- What is known of a member, once the members of these names were read. -/
def known (done : List String) (name : String) (a : α) : Option α :=
  if name ∈ done then some a else none

section Known

variable {done : List String} {name other : String}

@[simp] theorem known_self : known (name :: done) name a = some a := if_pos (.head _)

@[simp] theorem known_cons (apart : name ≠ other) :
    known (other :: done) name a = known done name a := by
  simp [known, apart]

theorem isSome_known (fresh : name ∉ done) : (known done name a).isSome = false := by
  simp [known, fresh]

theorem need_known (read : name ∈ done) : need name (known done name a) = .ok a := by
  rw [known, if_pos read]
  rfl

end Known

end TaskWatch.Json
