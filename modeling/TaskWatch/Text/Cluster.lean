import TaskWatch.Text.Break

/-! The characters of a text as a reader counts them.

    A mark belongs to the character before it, and so do a joiner and some other signs; a leading sign
    belongs to the character after it. The parts of a Hangul syllable, two consonants with a linker
    between them, two pictographs with a joiner between them and two regional letters are one, and
    a carriage return keeps the line feed after it. A control stands alone. -/

namespace TaskWatch.Text

/-- The class is that of a control. -/
def BreakClass.isControl (b : BreakClass) : Bool :=
  b = .control || b = .carriageReturn || b = .lineFeed

/-- The class is that of a mark. -/
def BreakClass.isMark (b : BreakClass) : Bool := b = .extending || b = .linker

/-- One Hangul syllable may go on with the second class after the first. -/
def sameSyllable : BreakClass → BreakClass → Bool
  | .initialJamo, .initialJamo | .initialJamo, .medialJamo => true
  | .initialJamo, .openSyllable | .initialJamo, .closedSyllable => true
  | .openSyllable, .medialJamo | .medialJamo, .medialJamo => true
  | .openSyllable, .finalJamo | .medialJamo, .finalJamo => true
  | .closedSyllable, .finalJamo | .finalJamo, .finalJamo => true
  | _, _ => false

/-- The classes, read from the end, are a pictograph and after it marks and then a joiner. -/
def endsInJoinedPictograph : List BreakClass → Bool
  | .joiner :: before => (before.dropWhile BreakClass.isMark).head? = some .pictograph
  | _ => false

/-- The classes, read from the end, are a consonant and after it marks, one of them a linker. -/
def endsInLinkedConsonant (classes : List BreakClass) : Bool :=
  let isMark (b : BreakClass) : Bool := b.isMark || b = .joiner
  (classes.takeWhile isMark).contains .linker && (classes.dropWhile isMark).head? = some .consonant

/-- The classes end in a regional letter that has no partner yet. -/
def endsInHalfFlag (classes : List BreakClass) : Bool :=
  (classes.takeWhile (· = .regional)).length % 2 = 1

/-- A character of the second class belongs to the cluster whose classes, read from the end, are
    the first argument. -/
def joins (classes : List BreakClass) (b : BreakClass) : Bool :=
  match classes with
  | [] => true
  | last :: _ =>
    if last = .carriageReturn then b = .lineFeed
    else if last.isControl || b.isControl then false
    else b.isMark || b = .joiner || b = .spacing || last = .leading || sameSyllable last b
      || (b = .consonant && endsInLinkedConsonant classes)
      || (b = .pictograph && endsInJoinedPictograph classes)
      || (b = .regional && endsInHalfFlag classes)

/-- A text partly divided: the clusters that are closed, the latest first, and the open one, its
    last character first, with the classes of its characters. -/
structure Division where
  closed : List String := []
  chars : List Char := []
  classes : List BreakClass := []

/-- The open cluster, closed. -/
def Division.all (d : Division) : List String :=
  if d.chars.isEmpty then d.closed else String.ofList d.chars.reverse :: d.closed

/-- Takes up one more character. -/
def Division.take (d : Division) (c : Char) : Division :=
  let b := breakClass c
  if joins d.classes b then { d with chars := c :: d.chars, classes := b :: d.classes }
  else { closed := d.all, chars := [c], classes := [b] }

/-- The clusters of a text. -/
def clusters (s : String) : List String := (s.toList.foldl Division.take {}).all.reverse

end TaskWatch.Text
