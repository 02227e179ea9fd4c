import TaskWatch.Board.Saved
import TaskWatch.Proofs.Files.Tree
import TaskWatch.Proofs.Task.Codec

/-! What outlives the program is saved as a whole or not at all.

    Saving can come to a stop anywhere (`Saved.Stop`): among the folders that it makes, after any part
    of the file beside the kept one was written, or once that has taken the kept one's place. Until
    then the kept file is as it was, and from then on it holds what was saved. -/

namespace TaskWatch.Board

open Files Json

namespace Saved

/-- Where saving can come to a stop, whether the new file has taken its place by then, and what the
    tree is. -/
inductive Stop (s : Saved) (d : Disk) (p : Path) : Bool → Disk → Prop
  /-- So many of the steps that make folders were tried. -/
  | folders (k : Nat) : Stop s d p false (d.attempt ((Disk.parentSteps p).take k)).1
  /-- So many octets were written to the file beside. -/
  | staged (n : Nat) {d₁ d₂ : Disk} (made : d.attempt (Disk.parentSteps p) = (d₁, .ok ()))
    (written : d₁.write (staging p) (s.text.toUTF8.extract 0 n) = .ok d₂) : Stop s d p false d₂
  | renamed {d₁ d₂ d₃ : Disk} (made : d.attempt (Disk.parentSteps p) = (d₁, .ok ()))
    (written : d₁.write (staging p) s.text.toUTF8 = .ok d₂)
    (moved : d₂.rename (staging p) p = .ok d₃) : Stop s d p true d₃

variable {s : Saved} {d d' d₁ d₂ d₃ : Disk} {p : Path} {name : String} {content : ByteArray}

/-! ### The record -/

/-- The only member as it is written. -/
def fields (s : Saved) : List (String × String) :=
  [("selected_task_id", (s.selected.map string).getD "null")]

theorem reads_optional (o : Option String) :
    Reads (readOptional readString) ((o.map string).getD "null") o := by
  intro ws rest blank bounded
  cases o with
  | none =>
    have written : "null".toList = ['n', 'u', 'l', 'l'] := rfl
    rw [Option.map_none, Option.getD_none, written, readOptional, skipSpace_blank blank]
    rfl
  | some id =>
    have read := reads_text "a string" id [] rest blank_nil bounded
    rw [List.nil_append, toList_string] at read
    rw [Option.map_some, Option.getD_some, toList_string, readOptional, skipSpace_blank blank]
    simp only [quoted, List.cons_append] at read ⊢
    rw [skipSpace_cons (by decide)]
    split
    · rename_i first
      exact absurd (List.cons.inj first).1 (by decide)
    · rw [readString, read]
      rfl

/-- What is saved is filled in from its member. -/
def filling (s : Saved) : Filling shape s.fields s where
  fill done := { selected := known done "selected_task_id" s.selected }
  empty := rfl
  distinct := by simp [fields]
  read := by
    refine .cons (fills_entering (reads_optional s.selected) ?_ ?_) .nil
    · intro done fresh
      exact isSome_known fresh
    · intro done
      simp
  build done all := by
    have read : "selected_task_id" ∈ done := all _ (.head _)
    simp [shape, known, read]

theorem decode_text (s : Saved) : decode (readRecord shape) s.text = .ok s :=
  s.filling.decode (carries_of_perm (holds_spreadObject (List.cons_ne_nil _ _)) (.refl _))

/-! ### The file beside -/

theorem names_staging (named : p.name? = some name) :
    (staging p).names = p.names.dropLast ++ [name ++ ".tmp"] := by
  rw [staging, Path.withEnding, named]

theorem name?_staging (named : p.name? = some name) :
    (staging p).name? = some (name ++ ".tmp") := by
  have down : name ++ ".tmp" ≠ ".." := fun same => by
    have length : name.length + 4 = 2 := (String.length_append ..).symm.trans (congrArg _ same)
    omega
  rw [Path.name?, names_staging named]
  simp [down]

theorem target_staging (named : p.name? = some name) :
    (staging p).target = p.names.dropLast.foldl Disk.step [] ++ [name ++ ".tmp"] := by
  rw [Disk.target_eq (name?_staging named), names_staging named, List.dropLast_concat]

/-- The file beside is another one. -/
theorem target_ne_staging (named : p.name? = some name) : p.target ≠ (staging p).target := by
  rw [Disk.target_eq named, target_staging named]
  intro same
  have same : name = name ++ ".tmp" := (List.cons.inj (List.append_cancel_left same)).1
  have length : name.length = name.length + 4 := (congrArg _ same).trans (String.length_append ..)
  omega

/-- The file beside lies in the same folder. -/
theorem above_staging (named : p.name? = some name) :
    (staging p).names.dropLast = p.names.dropLast := by
  rw [names_staging named, List.dropLast_concat]

/-- Once the file beside is written, the way to both is open. -/
theorem staged (named : p.name? = some name) (written : d.write (staging p) content = .ok d') :
    d.place (staging p) = .ok (staging p).target ∧ d.item? (staging p).target ≠ some .folder ∧
      d' = d.put (staging p).target (.file content) ∧
      ∃ above, p.names.dropLast.foldlM d.enter [] = .ok above := by
  obtain ⟨q, led, free, rfl⟩ := Disk.write_done written
  obtain ⟨rfl, above⟩ := Disk.target_of_place (name?_staging named) led
  exact ⟨led, free, rfl, above_staging named ▸ above⟩

/-- Writing the file beside changes no other file and takes away no folder. -/
theorem others_staged (named : p.name? = some name)
    (written : d.write (staging p) content = .ok d') :
    (∀ q, q ≠ (staging p).target → d'.file? q = d.file? q) ∧ d.FoldersKept d' := by
  obtain ⟨-, free, rfl, -⟩ := staged named written
  refine ⟨fun q apart => ?_, Disk.foldersKept_put free⟩
  rw [Disk.file?, Disk.item?_put (Disk.ne_nil_of_item? free), if_neg apart, Disk.file?]

/-- What a path leads to is not changed by writing to another place. -/
theorem content?_staged (named : p.name? = some name)
    (written : d.write (staging p) content = .ok d') : d'.content? p = d.content? p := by
  obtain ⟨files, kept⟩ := others_staged named written
  obtain ⟨-, -, -, above, way⟩ := staged named written
  have same := Disk.place_kept kept named way
  cases led : d.place p with
  | error fault =>
    rw [Disk.content?_of_fault led, Disk.content?_of_fault (same.trans led)]
  | ok q =>
    have apart : q ≠ (staging p).target :=
      (Disk.target_of_place named led).1 ▸ target_ne_staging named
    rw [Disk.content?_of_place led, Disk.content?_of_place (same.trans led), files q apart]

theorem foldersMade_parents (d : Disk) (p : Path) (k : Nat) :
    d.FoldersMade (d.attempt ((Disk.parentSteps p).take k)).1 :=
  Disk.foldersMade_attempt (fun _ listed => List.mem_of_mem_take listed) d

theorem foldersMade_all (made : d.attempt (Disk.parentSteps p) = (d₁, .ok ())) :
    d.FoldersMade d₁ := by
  have all := foldersMade_parents d p (Disk.parentSteps p).length
  rwa [List.take_length, made] at all

/-- What the tree is after the file beside was written and took the kept one's place. -/
theorem moved_eq (named : p.name? = some name) (written : d₁.write (staging p) content = .ok d₂)
    (moved : d₂.rename (staging p) p = .ok d₃) :
    p.ending = .name ∧ d₂.place p = .ok p.target ∧ d₂.item? p.target ≠ some .folder ∧
      d₂.item? (staging p).target = some (.file content) ∧
      d₃ = (d₂.remove (staging p).target).put p.target (.file content) := by
  obtain ⟨-, free, rfl, -⟩ := staged named written
  have there : (d₁.put (staging p).target (.file content)).item? (staging p).target =
      some (.file content) := by
    rw [Disk.item?_put (Disk.ne_nil_of_item? free), if_pos rfl]
  obtain ⟨content', r, q, from', file, ending, to', vacant, rfl⟩ := Disk.rename_done moved
  obtain ⟨rfl, -⟩ := Disk.target_of_place (name?_staging named) from'
  obtain ⟨rfl, -⟩ := Disk.target_of_place named to'
  obtain rfl : content = content' := Item.file.inj (Option.some.inj (there.symm.trans file))
  exact ⟨ending, to', vacant, there, rfl⟩

/-- What stands anywhere after the move. -/
theorem item?_moved (named : p.name? = some name)
    (written : d₁.write (staging p) content = .ok d₂)
    (moved : d₂.rename (staging p) p = .ok d₃) (q : List String) :
    d₃.item? q = if q = p.target then some (.file content)
      else if q = (staging p).target then none else d₂.item? q := by
  obtain ⟨-, -, vacant, file, rfl⟩ := moved_eq named written moved
  have other : d₂.item? (staging p).target ≠ some .folder := by simp [file]
  rw [Disk.item?_put (Disk.ne_nil_of_item? vacant),
    Disk.item?_remove (Disk.ne_nil_of_item? other)]

/-- The move changes no other file and takes away no folder. -/
theorem others_moved (named : p.name? = some name)
    (written : d₁.write (staging p) content = .ok d₂)
    (moved : d₂.rename (staging p) p = .ok d₃) :
    (∀ q, q ≠ p.target → q ≠ (staging p).target → d₃.file? q = d₂.file? q) ∧
      d₂.FoldersKept d₃ := by
  refine ⟨fun q apart apart' => ?_, fun q folder => ?_⟩
  · rw [Disk.file?, item?_moved named written moved, if_neg apart, if_neg apart', Disk.file?]
  · obtain ⟨-, -, vacant, file, -⟩ := moved_eq named written moved
    have apart : q ≠ p.target := fun same => vacant (same ▸ folder)
    have apart' : q ≠ (staging p).target := fun same => by simp [← same, folder] at file
    rw [item?_moved named written moved, if_neg apart, if_neg apart', folder]

/-- After the move the new file is loaded, and nothing is left beside it. -/
theorem load_moved (named : p.name? = some name)
    (written : d₁.write (staging p) s.text.toUTF8 = .ok d₂)
    (moved : d₂.rename (staging p) p = .ok d₃) : load d₃ p = .ok (some s) ∧
      ∃ place, d₃.place (staging p) = .ok place ∧ d₃.item? place = none := by
  obtain ⟨ending, led, -, -, -⟩ := moved_eq named written moved
  obtain ⟨led', -, -, above, way⟩ := staged named written
  have kept := (others_staged named written).2
  have kept' := (others_moved named written moved).2
  have place : d₃.place p = .ok p.target :=
    (Disk.place_kept kept' named (Disk.way_kept kept way)).trans led
  have beside : d₃.place (staging p) = .ok (staging p).target := by
    rw [Disk.place_kept (fun q folder => kept' q (kept q folder)) (name?_staging named)
      (above_staging named ▸ way), led']
  refine ⟨?_, _, beside, ?_⟩
  · have bytes : d₃.readBytes p = .ok s.text.toUTF8 := by
      rw [Disk.readBytes, place]
      simp only [bind, Except.bind, item?_moved named written moved, if_true, ending]
      rfl
    have text : String.fromUTF8? s.text.toUTF8 = some s.text := dif_pos s.text.isValidUTF8
    rw [load, Disk.readText, bytes]
    simp only [bind, Except.bind, text, pure, Except.pure, decode_text]
  · rw [item?_moved named written moved, if_neg (target_ne_staging named).symm, if_pos rfl]

theorem attempt_append (d : Disk) (fs gs : List (Disk → Except Files.Fault Disk)) :
    d.attempt (fs ++ gs) = match d.attempt fs with
      | (d', .ok ()) => d'.attempt gs
      | (d', .error fault) => (d', .error fault) := by
  induction fs generalizing d with
  | nil => rfl
  | cons f fs ih =>
    rw [List.cons_append, Disk.attempt, Disk.attempt]
    cases f d with
    | error fault => rfl
    | ok d' => exact ih d'

/-- Saving itself comes to one of the stops. -/
theorem stop_save (s : Saved) (d : Disk) (p : Path) :
    Stop s d p (s.save d p).2.isOk (s.save d p).1 := by
  have whole := Stop.folders (s := s) (d := d) (p := p) (Disk.parentSteps p).length
  rw [List.take_length] at whole
  rw [save, attempt_append]
  cases made : d.attempt (Disk.parentSteps p) with
  | mk d₁ outcome =>
    rw [made] at whole
    cases outcome with
    | error fault => exact whole
    | ok _ =>
      cases written : d₁.write (staging p) s.text.toUTF8 with
      | error fault =>
        simp only [Disk.attempt, written]
        exact whole
      | ok d₂ =>
        have written' : d₁.write (staging p)
            (s.text.toUTF8.extract 0 s.text.toUTF8.size) = .ok d₂ := by
          rw [ByteArray.extract_zero_size, written]
        cases moved : d₂.rename (staging p) p with
        | error fault =>
          simp only [Disk.attempt, written, moved]
          exact .staged _ made written'
        | ok d₃ =>
          simp only [Disk.attempt, written, moved]
          exact .renamed made written moved

/-- Saving is all or nothing, wherever it comes to a stop. Until the new file has taken its place, the
    kept one has the content that it had, or is missing as it was; so has what the path leads to,
    unless a folder was missing that the path leads out of again, for then the path led to nothing
    and now it may lead to the file that was in its place all along. Afterwards what was saved is
    loaded and no file is left beside. Either way nothing happens to any other file but the one
    beside, and no folder is gone. -/
theorem saved_or_as_before (s : Saved) (tree : d.IsTree) (named : p.name? = some name) :
    Stop s d p (s.save d p).2.isOk (s.save d p).1 ∧
    (∀ d', Stop s d p false d' → d'.file? p.target = d.file? p.target ∧
      (d'.content? p = d.content? p ∨
        ".." ∈ p.names ∧ d.place p = .error .missing ∧ d'.content? p = d.file? p.target)) ∧
    (∀ d', Stop s d p true d' → load d' p = .ok (some s) ∧
      ∃ place, d'.place (staging p) = .ok place ∧ d'.item? place = none) ∧
    (∀ renamed d', Stop s d p renamed d' →
      (∀ q, q ≠ p.target → q ≠ (staging p).target → d'.file? q = d.file? q) ∧
      ∀ q, d.item? q = some .folder → d'.item? q = some .folder) := by
  refine ⟨stop_save s d p, fun d' stop => ?_, fun d' stop => ?_, fun renamed d' stop => ?_⟩
  · cases stop with
    | folders k =>
      have made := foldersMade_parents d p k
      exact ⟨made.file?_eq _, made.content?_eq tree named⟩
    | staged n all written =>
      have made := foldersMade_all all
      refine ⟨?_, ?_⟩
      · rw [(others_staged named written).1 _ (target_ne_staging named), made.file?_eq]
      · rw [content?_staged named written]
        exact made.content?_eq tree named
  · cases stop with
    | renamed _ written moved => exact load_moved named written moved
  · cases stop with
    | folders k =>
      have made := foldersMade_parents d p k
      exact ⟨fun q _ _ => made.file?_eq q, made.kept⟩
    | staged n all written =>
      have made := foldersMade_all all
      obtain ⟨files, kept⟩ := others_staged named written
      exact ⟨fun q _ apart' => (files q apart').trans (made.file?_eq q),
        fun q folder => kept q (made.kept q folder)⟩
    | renamed all written moved =>
      have made := foldersMade_all all
      obtain ⟨files, kept⟩ := others_staged named written
      obtain ⟨files', kept'⟩ := others_moved named written moved
      refine ⟨fun q apart apart' => ?_, fun q folder => kept' q (kept q (made.kept q folder))⟩
      rw [files' q apart apart', files q apart', made.file?_eq]

/-- What is saved in a folder that has to be made is there, and another file of the name is kept. -/
theorem saved_in_new_folder :
    load (save ⟨some "ts_2"⟩ { items := [(["s"], .file "old".toUTF8)] } { names := ["a", "s"] }).1
        { names := ["a", "s"] } = .ok (some ⟨some "ts_2"⟩) ∧
      (save ⟨some "ts_2"⟩ { items := [(["s"], .file "old".toUTF8)] } { names := ["a", "s"] }).1.file?
        ["s"] = some "old".toUTF8 := by
  have tree : ({ items := [(["s"], .file "old".toUTF8)] } : Disk).IsTree :=
    Disk.isTree_of_flat (by decide)
  have named : Path.name? { names := ["a", "s"] } = some "s" := by decide
  obtain ⟨stop, -, loads, others⟩ := saved_or_as_before ⟨some "ts_2"⟩ tree named
  refine ⟨(loads _ ?_).1, ?_⟩
  · have done : (save ⟨some "ts_2"⟩ { items := [(["s"], .file "old".toUTF8)] }
        { names := ["a", "s"] }).2.isOk = true := by decide +kernel
    exact done ▸ stop
  · exact (others _ _ stop).1 ["s"] (by decide +kernel) (by decide +kernel)

/-- What a path leads to is not always as before until the new file has taken its place. Here a path
    led to nothing, since it leads out of a folder that was missing. The folder is made, a folder in
    the place of the file beside then stops saving, and the path leads to a file. -/
theorem found_before_renamed : ¬ ∀ (s : Saved) (d d' : Disk) (p : Path) (name : String), d.IsTree →
    p.name? = some name → Stop s d p false d' → d'.content? p = d.content? p := by
  intro same
  have tree : ({ items := [(["s"], .file "old".toUTF8), (["s.tmp"], .folder)] } : Disk).IsTree :=
    Disk.isTree_of_flat (by decide)
  have stop := stop_save ⟨some "ts_2"⟩
    { items := [(["s"], .file "old".toUTF8), (["s.tmp"], .folder)] } { names := ["a", "..", "s"] }
  have failed : (save ⟨some "ts_2"⟩ { items := [(["s"], .file "old".toUTF8), (["s.tmp"], .folder)] }
      { names := ["a", "..", "s"] }).2.isOk = false := by decide +kernel
  exact absurd (same _ _ _ _ "s" tree (by decide) (failed ▸ stop)) (by decide +kernel)

end Saved

end TaskWatch.Board
