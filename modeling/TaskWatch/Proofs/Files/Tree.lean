import TaskWatch.Files.Disk

/-! What the tree of files holds while folders are made and files are written.

    A path leads to its place only through folders that are there. So what is found by a path can
    change in two ways: its place holds something else, or a folder on the way was made. The place
    alone is told from the names, as if all folders were there (`Path.target`). -/

namespace TaskWatch.Files

/-- The place that the path leads to once all folders on its way are there. -/
def Path.target (p : Path) : List String := p.names.foldl Disk.step []

namespace Disk

variable {d d' d'' : Disk} {place q r : List String} {names : List String} {name : String} {i : Item}
  {p : Path}

/-- The content of the file in a place, if there is one. -/
def file? (d : Disk) (place : List String) : Option ByteArray :=
  match d.item? place with
  | some (.file content) => some content
  | _ => none

/-- The content of the file that a path leads to, if it leads to one. -/
def content? (d : Disk) (p : Path) : Option ByteArray := (d.readBytes p).toOption

/-- Whatever stands in the tree stands in a folder. -/
def IsTree (d : Disk) : Prop :=
  ∀ place, place ≠ [] → d.item? place ≠ none → d.item? place.dropLast = some .folder

/-! ### Places -/

theorem lookup_filter_ne (items : List (List String × Item)) (place q : List String) :
    (items.filter (fun (p, _) => p != place)).lookup q =
      if q = place then none else items.lookup q := by
  induction items with
  | nil => simp
  | cons e items ih =>
    obtain ⟨p, i⟩ := e
    by_cases same : p = place
    · subst same
      rw [List.filter_cons_of_neg (by simp), ih, List.lookup_cons]
      by_cases here : q = p
      · rw [if_pos here, if_pos here]
      · rw [if_neg here, if_neg here, beq_false_of_ne here]
    · rw [List.filter_cons_of_pos (by simpa using same), List.lookup_cons, List.lookup_cons, ih]
      by_cases here : q = p
      · simp [here, same]
      · rw [beq_false_of_ne here]

theorem item?_put (low : place ≠ []) :
    (d.put place i).item? q = if q = place then some i else d.item? q := by
  unfold item? put
  by_cases top : q = []
  · subst top
    simp [Ne.symm low]
  · simp only [List.isEmpty_iff, if_neg top, List.lookup_append, lookup_filter_ne]
    by_cases same : q = place
    · simp [same]
    · simp [same, List.lookup_cons, beq_false_of_ne same]

theorem item?_remove (low : place ≠ []) :
    (d.remove place).item? q = if q = place then none else d.item? q := by
  unfold item? remove
  by_cases top : q = []
  · subst top
    simp [Ne.symm low]
  · simp only [List.isEmpty_iff, if_neg top, lookup_filter_ne]

/-- The top is a folder, so it is not where something else stands or nothing does. -/
theorem ne_nil_of_item? (other : d.item? place ≠ some .folder) : place ≠ [] := by
  rintro rfl
  exact other rfl

theorem item?_eq_some (there : d.item? place = some i) : place = [] ∨ (place, i) ∈ d.items := by
  unfold item? at there
  split at there
  · exact .inl (by simpa using ‹place.isEmpty = true›)
  · obtain ⟨before, after, split, -⟩ := List.lookup_eq_some_iff.mp there
    exact .inr (by simp [split])

/-- A tree whose places are all at the top. -/
theorem isTree_of_flat (flat : ∀ e ∈ d.items, e.1.length = 1) : d.IsTree := by
  intro place low there
  obtain ⟨i, there⟩ := Option.ne_none_iff_exists'.mp there
  have listed := (item?_eq_some there).resolve_left low
  have top : place.dropLast = [] := by
    have length := flat _ listed
    rw [← List.length_eq_zero_iff, List.length_dropLast, length]
  rw [top]
  rfl

/-! ### Ways -/

/-- What is done in two steps is done if both are. -/
theorem bind_done {ε α β : Type} {x : Except ε α} {f : α → Except ε β} {b : β}
    (done : x >>= f = .ok b) : ∃ a, x = .ok a ∧ f a = .ok b := by
  cases x with
  | error fault => exact absurd done (by simp [bind, Except.bind])
  | ok a => exact ⟨a, rfl, done⟩

theorem bind_failed {ε α β : Type} {x : Except ε α} {f : α → Except ε β} {fault : ε}
    (failed : x >>= f = .error fault) :
    x = .error fault ∨ ∃ a, x = .ok a ∧ f a = .error fault := by
  cases x with
  | error other =>
    cases failed
    exact .inl rfl
  | ok a => exact .inr ⟨a, rfl, failed⟩

/-- Whatever was a folder still is. -/
def FoldersKept (d d' : Disk) : Prop := ∀ q, d.item? q = some .folder → d'.item? q = some .folder

theorem foldersKept_put (other : d.item? place ≠ some .folder) : FoldersKept d (d.put place i) := by
  intro q folder
  have apart : q ≠ place := fun same => other (same ▸ folder)
  rw [item?_put (ne_nil_of_item? other), if_neg apart, folder]

theorem reach_eq {place name} (reached : reach place name = .ok q) : q = step place name := by
  unfold reach at reached
  split at reached
  · simp at reached
  · exact (Except.ok.inj reached).symm

/-- What is entered is a folder. -/
theorem enter_eq_ok : d.enter place name = .ok q ↔
    reach place name = .ok q ∧ d.item? q = some .folder := by
  constructor
  · intro done
    obtain ⟨next, reached, done⟩ := bind_done done
    split at done
    · rename_i folder
      cases done
      exact ⟨reached, folder⟩
    · cases done
    · cases done
  · rintro ⟨reached, folder⟩
    simp only [enter, reached, bind, Except.bind, folder]
    rfl

/-- A way through folders leads where its names do. -/
theorem way_eq {names : List String} (way : names.foldlM d.enter q = .ok r) :
    r = names.foldl step q := by
  induction names generalizing q with
  | nil => exact (Except.ok.inj way).symm
  | cons name names ih =>
    rw [List.foldlM_cons] at way
    obtain ⟨next, entered, way⟩ := bind_done way
    rw [ih way, reach_eq (enter_eq_ok.mp entered).1]
    rfl

/-- A way stays open while its folders stay. -/
theorem way_kept {names : List String} (kept : FoldersKept d d')
    (way : names.foldlM d.enter q = .ok r) : names.foldlM d'.enter q = .ok r := by
  induction names generalizing q with
  | nil => exact way
  | cons name names ih =>
    rw [List.foldlM_cons] at way ⊢
    obtain ⟨next, entered, way⟩ := bind_done way
    obtain ⟨reached, folder⟩ := enter_eq_ok.mp entered
    rw [enter_eq_ok.mpr ⟨reached, kept next folder⟩]
    exact ih way

/-- The way to the place of names, and what is asked of the names themselves. -/
theorem placeOf_concat (d : Disk) (above : List String) (last : String) :
    d.placeOf (above ++ [last]) = (do
      checkWay (above ++ [last])
      let place ← above.foldlM d.enter []
      reach place last) := by
  simp [placeOf]

/-- While folders stay, names of an open way lead where they did, or nowhere for the same reason. -/
theorem placeOf_kept {above : List String} {last : String} (kept : FoldersKept d d')
    (way : above.foldlM d.enter [] = .ok r) :
    d'.placeOf (above ++ [last]) = d.placeOf (above ++ [last]) := by
  rw [placeOf_concat, placeOf_concat, way, way_kept kept way]

theorem placeOf_eq {above : List String} {last : String}
    (led : d.placeOf (above ++ [last]) = .ok q) :
    q = (above ++ [last]).foldl step [] ∧ ∃ r, above.foldlM d.enter [] = .ok r := by
  rw [placeOf_concat] at led
  obtain ⟨_, -, led⟩ := bind_done led
  obtain ⟨place, way, reached⟩ := bind_done led
  refine ⟨?_, place, way⟩
  rw [reach_eq reached, way_eq way, List.foldl_append]
  rfl

/-! ### What is found by a path -/

theorem content?_of_fault {fault : Fault} (lost : d.place p = .error fault) :
    d.content? p = none := by
  rw [content?, readBytes, lost]
  rfl

theorem content?_of_place (led : d.place p = .ok q) :
    d.content? p = if p.ending = .name then d.file? q else none := by
  rw [content?, readBytes, led, file?]
  simp only [bind, Except.bind]
  cases d.item? q with
  | none => simp [throw, throwThe, MonadExceptOf.throw, Except.toOption]
  | some i =>
    cases i with
    | folder => simp [throw, throwThe, MonadExceptOf.throw, Except.toOption]
    | file content =>
      dsimp only
      split <;> rfl

/-- A path with a last name that leads no further up consists of the names above and that one. -/
theorem names_eq (named : p.name? = some name) :
    p.names = p.names.dropLast ++ [name] ∧ name ≠ ".." := by
  rw [Path.name?] at named
  obtain ⟨last, other⟩ := Option.filter_eq_some_iff.mp named
  obtain ⟨above, same⟩ := List.getLast?_eq_some_iff.mp last
  exact ⟨by rw [same, List.dropLast_concat], by simpa using other⟩

theorem place_eq (named : p.name? = some name) :
    d.place p = d.placeOf (p.names.dropLast ++ [name]) := by
  have names := (names_eq named).1
  have some_name : p.isBlank = false := by
    rw [Path.isBlank, names]
    simp
  rw [place, some_name, ← names]
  rfl

/-- While folders stay, a path of an open way leads where it did. -/
theorem place_kept (kept : FoldersKept d d') (named : p.name? = some name)
    (way : p.names.dropLast.foldlM d.enter [] = .ok r) : d'.place p = d.place p := by
  rw [place_eq named, place_eq named, placeOf_kept kept way]

/-- A path that leads somewhere leads to its target, and its way is open. -/
theorem target_of_place (named : p.name? = some name) (led : d.place p = .ok q) :
    q = p.target ∧ ∃ r, p.names.dropLast.foldlM d.enter [] = .ok r := by
  rw [place_eq named] at led
  obtain ⟨target, way⟩ := placeOf_eq led
  refine ⟨?_, way⟩
  rw [target, ← (names_eq named).1]
  rfl

theorem target_eq (named : p.name? = some name) :
    p.target = p.names.dropLast.foldl step [] ++ [name] := by
  obtain ⟨names, down⟩ := names_eq named
  rw [Path.target]
  conv => lhs; rw [names, List.foldl_append]
  simp [step, down]

/-! ### Folders that are made -/

/-- The second tree has the same as the first, and folders where nothing stood in the first. -/
def FoldersMade (d d' : Disk) : Prop :=
  ∀ q, d'.item? q = d.item? q ∨ d.item? q = none ∧ d'.item? q = some .folder

namespace FoldersMade

theorem refl (d : Disk) : FoldersMade d d := fun _ => .inl rfl

theorem trans (made : FoldersMade d d') (more : FoldersMade d' d'') : FoldersMade d d'' := by
  intro q
  rcases made q with same | ⟨missing, folder⟩
  · rw [← same]
    exact more q
  · refine .inr ⟨missing, ?_⟩
    rcases more q with same | ⟨missing', -⟩
    · rw [same, folder]
    · simp [folder] at missing'

theorem kept (made : FoldersMade d d') : FoldersKept d d' := by
  intro q folder
  rcases made q with same | ⟨missing, -⟩
  · rw [same, folder]
  · simp [missing] at folder

theorem file?_eq (made : FoldersMade d d') (q : List String) : d'.file? q = d.file? q := by
  rcases made q with same | ⟨missing, folder⟩
  · rw [file?, file?, same]
  · rw [file?, file?, missing, folder]

end FoldersMade

theorem foldersMade_makeFolder (done : d.makeFolder names = .ok d') : FoldersMade d d' := by
  obtain ⟨place, -, done⟩ := bind_done done
  split at done
  · exact Except.ok.inj done ▸ .refl d
  · simp [throw, throwThe, MonadExceptOf.throw] at done
  · rename_i missing
    obtain rfl := Except.ok.inj done
    intro q
    have low : place ≠ [] := ne_nil_of_item? (by simp [missing] : d.item? place ≠ some .folder)
    rw [item?_put low]
    by_cases here : q = place
    · exact .inr ⟨here ▸ missing, if_pos here⟩
    · exact .inl (if_neg here)

/-- What is left as it was where something is missing is otherwise done. -/
theorem unlessMissing_done {f : Disk → Except Fault Disk} (done : unlessMissing f d = .ok d') :
    d' = d ∨ f d = .ok d' := by
  unfold unlessMissing at done
  split at done
  · exact .inl (Except.ok.inj done).symm
  · exact .inr done

theorem foldersMade_folderSteps {f : Disk → Except Fault Disk} (listed : f ∈ folderSteps names)
    (done : f d = .ok d') : FoldersMade d d' := by
  rcases List.mem_cons.mp listed with rfl | listed
  · rcases unlessMissing_done done with rfl | made
    · exact .refl _
    · exact foldersMade_makeFolder made
  · obtain ⟨i, -, rfl⟩ := List.mem_map.mp listed
    exact foldersMade_makeFolder done

/-- Whatever part of the folders is made, nothing else is changed. -/
theorem foldersMade_attempt {steps : List (Disk → Except Fault Disk)}
    (each : ∀ f ∈ steps, f ∈ folderSteps names) (d : Disk) :
    FoldersMade d (d.attempt steps).1 := by
  induction steps generalizing d with
  | nil => exact .refl d
  | cons f steps ih =>
    unfold attempt
    cases done : f d with
    | error fault => exact .refl d
    | ok d' =>
      exact (foldersMade_folderSteps (each f (List.mem_cons_self ..)) done).trans
        (ih (fun g listed => each g (List.mem_cons_of_mem _ listed)) d')

/-! ### Ways that are not open -/

theorem reach_ne_missing : reach place name ≠ .error .missing := by
  unfold reach
  split <;> simp

theorem checkWay_ne_missing : checkWay names ≠ .error .missing := by
  unfold checkWay
  split
  · simp
  · split <;> simp

/-- Where something else than a missing folder closes a way, making folders does not open it. -/
theorem FoldersMade.enter_eq (made : FoldersMade d d') {fault : Fault}
    (failed : d.enter q name = .error fault) (other : fault ≠ .missing) :
    d'.enter q name = .error fault := by
  rcases bind_failed failed with lost | ⟨next, reached, failed⟩
  · rw [enter, lost]
    rfl
  · rcases made next with same | ⟨missing, -⟩
    · rw [enter, reached, ← failed, ← same]
      rfl
    · rw [missing] at failed
      exact absurd (Except.error.inj failed).symm other

theorem FoldersMade.way_eq (made : FoldersMade d d') {fault : Fault} {names : List String}
    (failed : names.foldlM d.enter q = .error fault) (other : fault ≠ .missing) :
    names.foldlM d'.enter q = .error fault := by
  induction names generalizing q with
  | nil => cases failed
  | cons name names ih =>
    rw [List.foldlM_cons] at failed ⊢
    rcases bind_failed failed with closed | ⟨next, entered, failed⟩
    · rw [made.enter_eq closed other]
      rfl
    · obtain ⟨reached, folder⟩ := enter_eq_ok.mp entered
      rw [enter_eq_ok.mpr ⟨reached, made.kept next folder⟩]
      exact ih failed

theorem FoldersMade.placeOf_eq (made : FoldersMade d d') {above : List String} {fault : Fault}
    (failed : d.placeOf (above ++ [name]) = .error fault) (other : fault ≠ .missing) :
    d'.placeOf (above ++ [name]) = .error fault := by
  rw [placeOf_concat] at failed ⊢
  rcases bind_failed failed with refused | ⟨_, checked, failed⟩
  · rw [refused]
    rfl
  rw [checked]
  rcases bind_failed failed with closed | ⟨place, way, failed⟩
  · rw [made.way_eq closed other]
    rfl
  · rw [way_kept made.kept way]
    exact failed

theorem IsTree.folder_above (tree : d.IsTree) :
    ∀ (r : List String) {q : List String} {name : String}, d.item? (q ++ name :: r) ≠ none →
      d.item? q = some .folder
  | [], q, name, there => by
    simpa using tree (q ++ [name]) (by simp) there
  | other :: r, q, name, there => by
    have below : d.item? (q ++ [name]) = some .folder :=
      tree.folder_above r (by simpa using there)
    simpa using tree (q ++ [name]) (by simp) (by simp [below])

/-- No folder is missing on the way down to something that is there. -/
theorem IsTree.way_ne_missing (tree : d.IsTree) {names : List String} (down : ".." ∉ names)
    (there : d.item? (q ++ (names ++ [name])) ≠ none) :
    names.foldlM d.enter q ≠ .error .missing := by
  induction names generalizing q with
  | nil => simp [pure, Except.pure]
  | cons first names ih =>
    obtain ⟨here, down⟩ := not_or.mp (mt List.mem_cons.mpr down)
    rw [List.foldlM_cons]
    intro failed
    cases reached : reach q first with
    | error fault =>
      rw [enter, reached] at failed
      exact reach_ne_missing (reached.trans failed)
    | ok next =>
      have next_eq : next = q ++ [first] := by
        rw [reach_eq reached, step, if_neg (Ne.symm here)]
      have there : d.item? (next ++ (names ++ [name])) ≠ none := by simpa [next_eq] using there
      have folder : d.item? next = some .folder := by
        cases names with
        | nil => exact tree.folder_above [] there
        | cons _ names => exact tree.folder_above _ there
      rw [enter_eq_ok.mpr ⟨reached, folder⟩] at failed
      exact ih down there failed

theorem foldl_step_down (down : ".." ∉ names) : names.foldl step q = q ++ names := by
  induction names generalizing q with
  | nil => simp
  | cons name names ih =>
    obtain ⟨here, down⟩ := not_or.mp (mt List.mem_cons.mpr down)
    rw [List.foldl_cons, ih down, step, if_neg (Ne.symm here), List.append_assoc]
    rfl

/-- Where a path leads to nothing for want of a folder, and never up, nothing is in its place. -/
theorem IsTree.missing (tree : d.IsTree) (named : p.name? = some name) (down : ".." ∉ p.names)
    (lost : d.place p = .error .missing) : d.item? p.target = none := by
  obtain ⟨names, -⟩ := names_eq named
  have above : ".." ∉ p.names.dropLast := fun listed => down (List.dropLast_subset _ listed)
  have target : p.target = [] ++ (p.names.dropLast ++ [name]) := by
    rw [← names]
    exact foldl_step_down down
  refine Classical.byContradiction fun there => ?_
  rw [place_eq named, placeOf_concat] at lost
  rcases bind_failed lost with refused | ⟨_, -, lost⟩
  · exact checkWay_ne_missing refused
  rcases bind_failed lost with closed | ⟨_, -, lost⟩
  · exact tree.way_ne_missing above (target ▸ there) closed
  · exact reach_ne_missing lost

/-- What is found by a path stays while folders are made, unless the path led nowhere for want of a
    folder that it leads out of again: then it may lead to a file that was in its place before. -/
theorem FoldersMade.content?_eq (made : FoldersMade d d') (tree : d.IsTree)
    (named : p.name? = some name) : d'.content? p = d.content? p ∨
      ".." ∈ p.names ∧ d.place p = .error .missing ∧ d'.content? p = d.file? p.target := by
  cases led : d.place p with
  | ok q =>
    obtain ⟨-, r, way⟩ := target_of_place named led
    have led' : d'.place p = .ok q := (place_kept made.kept named way).trans led
    exact .inl (by rw [content?_of_place led, content?_of_place led', made.file?_eq])
  | error fault =>
    rw [content?_of_fault led]
    -- Of all that can close a way only a missing folder is ever mended.
    by_cases missing : fault = .missing
    · subst missing
      cases led' : d'.place p with
      | error fault' => exact .inl (content?_of_fault led')
      | ok q =>
        rw [content?_of_place led', (target_of_place named led').1, made.file?_eq]
        split
        · by_cases up : ".." ∈ p.names
          · exact .inr ⟨up, rfl, rfl⟩
          · exact .inl (by rw [file?, tree.missing named up led])
        · exact .inl rfl
    · rw [place_eq named] at led
      exact .inl (content?_of_fault ((place_eq named).trans (made.placeOf_eq led missing)))

/-! ### Files that are written and moved -/

theorem placeToWrite_done {before : ByteArray} (done : d.placeToWrite p = .ok (q, before)) :
    d.place p = .ok q ∧ d.item? q ≠ some .folder := by
  obtain ⟨place, led, done⟩ := bind_done done
  split at done
  · cases done
  · cases done
  · cases done
  · cases done
  · rename_i file
    cases done
    exact ⟨led, by simp [file]⟩
  · rename_i free
    cases done
    exact ⟨led, by simp [free]⟩

theorem placeToMove_done (done : d.placeToMove p = .ok q) :
    p.ending = .name ∧ d.place p = .ok q ∧ d.item? q ≠ some .folder := by
  obtain ⟨place, led, done⟩ := bind_done done
  split at done
  · cases done
  · cases done
  · cases done
  · cases done
  · cases done
  · rename_i ending free
    cases done
    exact ⟨ending, led, free⟩

theorem readBytes_done {content : ByteArray} (done : d.readBytes p = .ok content) :
    ∃ q, d.place p = .ok q ∧ d.item? q = some (.file content) := by
  obtain ⟨q, led, done⟩ := bind_done done
  refine ⟨q, led, ?_⟩
  split at done
  · rename_i file
    split at done
    · cases done
      exact file
    · cases done
  · cases done
  · cases done

/-- A file is written in its place, where no folder is. -/
theorem write_done {content : ByteArray} (done : d.write p content = .ok d') :
    ∃ q, d.place p = .ok q ∧ d.item? q ≠ some .folder ∧ d' = d.put q (.file content) := by
  obtain ⟨⟨q, before⟩, found, done⟩ := bind_done done
  obtain ⟨led, free⟩ := placeToWrite_done found
  exact ⟨q, led, free, (Except.ok.inj done).symm⟩

/-- A file is moved away from its place to another one, where no folder is. -/
theorem rename_done {source : Path} (done : d.rename source p = .ok d') :
    ∃ content r q, d.place source = .ok r ∧ d.item? r = some (.file content) ∧
      p.ending = .name ∧ d.place p = .ok q ∧ d.item? q ≠ some .folder ∧
      d' = (d.remove r).put q (.file content) := by
  obtain ⟨content, read, done⟩ := bind_done done
  obtain ⟨q, found, done⟩ := bind_done done
  obtain ⟨r', led', done⟩ := bind_done done
  obtain ⟨r, led, file⟩ := readBytes_done read
  obtain rfl : r = r' := Except.ok.inj (led.symm.trans led')
  obtain ⟨ending, place, free⟩ := placeToMove_done found
  exact ⟨content, r, q, led, file, ending, place, free, (Except.ok.inj done).symm⟩

end Disk

end TaskWatch.Files
