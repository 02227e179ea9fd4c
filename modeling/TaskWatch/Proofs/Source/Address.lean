import TaskWatch.Proofs.Text.Trimmed
import TaskWatch.StartUp

/-! The address of the server: how it is checked, and how it is used.

    The settings are checked with the blanks around the address taken away, but the server is made
    with the address as it was written, less the slashes at its end, and what is asked for is put right
    behind that. The two agree unless there are blanks at one end of the address, before the slashes
    or not, or nothing but slashes follows the protocol (`Astray`). -/

namespace TaskWatch.Source

open Text

variable {c : Config} {s : Server} {url : String} {cs kept slashes : List Char} {d : Char}

/-- What an address begins with. -/
def protocols : List String := ["http://", "https://"]

/-- The text begins with a protocol and goes on after it, and no blank stands at either end. -/
structure IsAddress (s : String) : Prop where
  begins : ∃ p ∈ protocols, ∃ rest, rest ≠ [] ∧ s.toList = p.toList ++ rest
  first : ∀ c ∈ s.toList.head?, isBlank c = false
  last : ∀ c ∈ s.toList.getLast?, isBlank c = false

/-- What goes wrong with the address in the settings. -/
inductive Astray (url : String) : Prop
  /-- It begins with a blank. -/
  | before {c : Char} {rest : List Char} (blank : isBlank c = true) (text : url.toList = c :: rest)
  /-- The last character that is no slash is a blank. -/
  | behind {c : Char} {rest slashes : List Char} (blank : isBlank c = true)
    (all : ∀ d ∈ slashes, d = '/') (text : url.toList = rest ++ c :: slashes)
  /-- Nothing but slashes follows the protocol. -/
  | bare {p : String} {slashes : List Char} (named : p ∈ protocols)
    (all : ∀ d ∈ slashes, d = '/') (text : url.toList = p.toList ++ slashes)

/-! ### Slashes at the end -/

/-- A text is slashes, or it has a last character that is none. -/
theorem slashes_or_split (cs : List Char) : (∀ c ∈ cs, c = '/') ∨
    ∃ kept d slashes, cs = kept ++ d :: slashes ∧ d ≠ '/' ∧ ∀ c ∈ slashes, c = '/' := by
  by_cases none : cs.rdropWhile (· == '/') = []
  · exact .inl fun c listed => by simpa using List.rdropWhile_eq_nil_iff.mp none c listed
  · have other := List.rdropWhile_last_not (· == '/') cs none
    refine .inr ⟨(cs.rdropWhile (· == '/')).dropLast, _, cs.rtakeWhile (· == '/'), ?_,
      by simpa using other, fun c listed => by simpa using List.mem_rtakeWhile_imp listed⟩
    rw [List.append_cons, List.dropLast_concat_getLast, List.rdropWhile_append_rtakeWhile]

theorem toList_withoutSlashes (url : String) :
    (withoutSlashes url).toList = url.toList.rdropWhile (· == '/') := String.toList_ofList ..

/-- Slashes go, and nothing else. -/
theorem withoutSlashes_append (url : String) :
    ∃ slashes, (∀ c ∈ slashes, c = '/') ∧ url.toList = (withoutSlashes url).toList ++ slashes := by
  refine ⟨url.toList.rtakeWhile (· == '/'),
    fun c listed => by simpa using List.mem_rtakeWhile_imp listed, ?_⟩
  rw [toList_withoutSlashes, List.rdropWhile_append_rtakeWhile]

/-- All slashes go that come after the last character that is none. -/
theorem withoutSlashes_split (text : url.toList = kept ++ d :: slashes) (other : d ≠ '/')
    (all : ∀ c ∈ slashes, c = '/') : (withoutSlashes url).toList = kept ++ [d] := by
  rw [toList_withoutSlashes, text, List.append_cons]
  exact rdropWhile_append (by simpa using other) (by simpa using all)

/-! ### Protocols -/

theorem protocol_head : ∀ p ∈ protocols, ∃ rest, p.toList = 'h' :: rest := by
  simp [protocols]

theorem protocol_split : ∀ p ∈ protocols, ∃ name : List Char,
    name.length < 6 ∧ p.toList = name ++ [':', '/', '/'] := by
  intro p named
  simp only [protocols, List.mem_cons, List.not_mem_nil, or_false] at named
  rcases named with rfl | rfl
  · exact ⟨"http".toList, by decide, rfl⟩
  · exact ⟨"https".toList, by decide, rfl⟩

theorem protocol_length : ∀ p ∈ protocols, 7 ≤ p.toList.length := by decide

/-! ### From the settings to the server -/

/-- The server is where the settings say, less the slashes at the end. -/
theorem baseUrl_of_source (built : c.source = .ok (.server s)) :
    c.origin = .server ∧ ∃ url, c.baseUrl = some url ∧ s.base = withoutSlashes url := by
  unfold Config.source at built
  split at built
  · simp at built
  · rename_i origin
    refine ⟨origin, ?_⟩
    unfold Server.make at built
    split at built
    · simp [Except.map] at built
    · rename_i url given
      refine ⟨url, given, ?_⟩
      cases key : checked c.apiKey with
      | error fault => simp [key, Except.map, bind, Except.bind] at built
      | ok apiKey =>
        cases secret : checked (c.token.map ("Bearer " ++ ·)) with
        | error fault => simp [key, secret, Except.map, bind, Except.bind] at built
        | ok authorization =>
          simp only [key, secret, Except.map, bind, Except.bind, pure, Except.pure, Except.ok.injEq,
            AnySource.server.injEq] at built
          rw [← built]

/-- Settings for a server pass the check only if its address begins with a protocol, once the blanks
    around it are taken away. -/
theorem protocol_of_check (accepted : c.check = .ok ()) (origin : c.origin = .server)
    (given : c.baseUrl = some url) : ∃ p ∈ protocols, p.toList <+: (trimmed url).toList := by
  have kept : c.urlBreach = none := by
    unfold Config.check at accepted
    split at accepted
    · simp at accepted
    · rename_i clean
      exact List.findSome?_eq_none_iff.mp clean _ (List.mem_cons_self ..)
  unfold Config.urlBreach at kept
  rw [if_neg (by simp [origin]), given, Option.getD_some] at kept
  dsimp only at kept
  split at kept
  · simp at kept
  · split at kept
    · rename_i either
      rcases Bool.or_eq_true_iff.mp either with begins | begins
      · exact ⟨"http://", by decide, String.startsWith_string_iff.mp begins⟩
      · exact ⟨"https://", by decide, String.startsWith_string_iff.mp begins⟩
    · simp at kept

/-! ### What goes wrong, and what does not -/

/-- What goes astray is no address once the slashes at its end are gone. -/
theorem Astray.not_isAddress (astray : Astray url) : ¬ IsAddress (withoutSlashes url) := by
  intro address
  obtain ⟨p, named, rest, -, begins⟩ := address.begins
  cases astray with
  | @before c tail blank text =>
    obtain ⟨slashes, -, split⟩ := withoutSlashes_append url
    obtain ⟨ptail, letter⟩ := protocol_head p named
    rw [begins, letter, text] at split
    obtain ⟨rfl, -⟩ := List.cons.inj split
    exact absurd blank (by decide)
  | @behind c kept slashes blank all text =>
    have other : c ≠ '/' := by
      rintro rfl
      exact absurd blank (by decide)
    have last := address.last c (by simp [withoutSlashes_split text other all])
    exact absurd blank (by simp [last])
  | @bare q slashes named' all text =>
    obtain ⟨name, short, shape⟩ := protocol_split q named'
    have parts : url.toList = name ++ ':' :: '/' :: '/' :: slashes := by
      rw [text, shape, List.append_assoc]
      rfl
    have colon : (withoutSlashes url).toList = name ++ [':'] :=
      withoutSlashes_split parts (by decide) (by simpa using all)
    -- The colon is all that is left behind the name, which is less than a protocol.
    have long := protocol_length p named
    have same := congrArg List.length (colon.symm.trans begins)
    simp only [List.length_append, List.length_singleton] at same
    omega

/-- What does not go astray, and begins with a protocol once the blanks around it are gone, is an
    address once the slashes at its end are. -/
theorem isAddress_of_not_astray (begins : ∃ p ∈ protocols, p.toList <+: (trimmed url).toList)
    (straight : ¬ Astray url) : IsAddress (withoutSlashes url) := by
  obtain ⟨p, named, core, begins⟩ := begins
  obtain ⟨before, after, blank, -, text⟩ := (trims_trimmed url).around
  obtain rfl : before = [] := by
    cases before with
    | nil => rfl
    | cons c before => exact absurd (.before (blank c (List.mem_cons_self ..)) text) straight
  have text : url.toList = p.toList ++ (core ++ after) := by
    rw [text, List.nil_append, ← begins, List.append_assoc]
  rcases slashes_or_split (core ++ after) with all | ⟨kept, d, slashes, split, other, all⟩
  · exact absurd (.bare named all text) straight
  · rw [split, ← List.append_assoc] at text
    have base := withoutSlashes_split text other all
    have blankless : isBlank d = false := Bool.eq_false_iff.mpr fun blank =>
      straight (.behind blank all text)
    obtain ⟨ptail, letter⟩ := protocol_head p named
    refine ⟨⟨p, named, kept ++ [d], by simp, by rw [base, List.append_assoc]⟩, fun c first => ?_,
      fun c last => ?_⟩
    · rw [base, letter] at first
      obtain rfl : 'h' = c := by simpa using first
      decide
    · rw [base] at last
      obtain rfl : d = c := by simpa using last
      exact blankless

/-- Settings for a server at that place. -/
def settings (url : String) : Config :=
  { origin := .server, baseUrl := some url, apiKey := none, token := none, timeout := 5000
    tick := 250, statePath := "state.json", logPath := "board.log", tasksInterval := 0
    metricsInterval := 5000, stale := 0, grace := 300000, tasksDelay := 0, metricsDelay := 0 }

theorem source_settings (url : String) :
    (settings url).source = .ok (.server ⟨withoutSlashes url, none, none⟩) := rfl

/-- Settings for a server that pass the check, and the server that is made from them: where it is
    is what the settings say, less the slashes at the end, and what is asked for is put right behind
    that. It begins with a protocol, goes on after it and has no blank at either end just when the
    address in the settings does not go astray. -/
theorem base_is_address_unless_astray (accepted : c.check = .ok ())
    (built : c.source = .ok (.server s)) :
    ∃ url, c.baseUrl = some url ∧
      (∃ slashes, (∀ d ∈ slashes, d = '/') ∧ url.toList = s.base.toList ++ slashes) ∧
      (IsAddress s.base ↔ ¬ Astray url) ∧
      s.askTasks.url = s.base ++ "/api/v1/tasks" ∧
      ∀ r, (s.askCreate r).url = s.base ++ "/api/v1/tasks" := by
  obtain ⟨origin, url, given, base⟩ := baseUrl_of_source built
  refine ⟨url, given, base ▸ withoutSlashes_append url, ?_, rfl, fun r => rfl⟩
  rw [base]
  exact ⟨fun address astray => astray.not_isAddress address,
    isAddress_of_not_astray (protocol_of_check accepted origin given)⟩

/-- Slashes at the end do no harm. -/
theorem slashes_do_no_harm :
    let c := settings "https://localhost:8443/board//"
    ∃ s, c.check = .ok () ∧ c.source = .ok (.server s) ∧ s.base = "https://localhost:8443/board" ∧
      ¬ Astray "https://localhost:8443/board//" := by
  intro c
  have accepted : c.check = .ok () := by decide +kernel
  have base : withoutSlashes "https://localhost:8443/board//" = "https://localhost:8443/board" := by
    decide +kernel
  obtain ⟨url, given, -, exact, -⟩ := base_is_address_unless_astray accepted (source_settings _)
  obtain rfl := Option.some.inj given
  refine ⟨_, accepted, source_settings _, base, exact.mp ?_⟩
  rw [base]
  refine ⟨⟨"https://", by decide, "localhost:8443/board".toList, by simp, rfl⟩,
    fun c first => ?_, fun c last => ?_⟩
  · obtain rfl : 'h' = c := Option.some.inj first
    decide
  · obtain rfl : 'd' = c := Option.some.inj last
    decide

/-- The check is passed, but the server that is made has no address. -/
def Missed (url : String) : Prop :=
  (settings url).check = .ok () ∧
    ∃ s, (settings url).source = .ok (.server s) ∧ ¬ IsAddress s.base

theorem Astray.missed (astray : Astray url) (accepted : (settings url).check = .ok ()) : Missed url :=
  ⟨accepted, _, source_settings url, astray.not_isAddress⟩

/-- The check misses that nothing follows the protocol, and that a blank stands in front of the address,
    at its end, or before the slash there. -/
theorem accepted_addresses_astray :
    Missed "https://" ∧ Missed " http://localhost:8080" ∧ Missed "http://localhost:8080/ " ∧
      Missed "http://localhost:8080 /" := by
  have nothing : Astray "https://" := @Astray.bare _ "https://" [] (by decide) (by simp) rfl
  have before : Astray " http://localhost:8080" :=
    @Astray.before _ ' ' "http://localhost:8080".toList (by decide) rfl
  have behind : Astray "http://localhost:8080/ " :=
    @Astray.behind _ ' ' "http://localhost:8080/".toList [] (by decide) (by simp) rfl
  have inside : Astray "http://localhost:8080 /" :=
    @Astray.behind _ ' ' "http://localhost:8080".toList ['/'] (by decide) (by simp) rfl
  exact ⟨nothing.missed (by decide +kernel), before.missed (by decide +kernel),
    behind.missed (by decide +kernel), inside.missed (by decide +kernel)⟩

end TaskWatch.Source
