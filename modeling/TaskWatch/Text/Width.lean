import TaskWatch.Text.Emoji
import TaskWatch.Text.Mark

/-! How many columns of a terminal a text fills.

    Wide characters of East Asian scripts and most pictographs fill two columns, marks and format
    characters none, all others one, controls too. Some characters fill less, or more, before
    certain others: a selector asks for a pictograph or for a plain letter, a joiner makes one
    pictograph of two, and some letters are written as one sign. So a text is measured from its end,
    and each character is measured by what follows it. -/

namespace TaskWatch.Text

/-- Code points that fill two columns. -/
def wideRanges : List (Nat × Nat) :=
  [(0x1100, 0x115F), (0x231A, 0x231B), (0x2329, 0x232A), (0x23E9, 0x23EC), (0x23F0, 0x23F0),
   (0x23F3, 0x23F3), (0x25FD, 0x25FE), (0x2614, 0x2615), (0x2630, 0x2637), (0x2648, 0x2653),
   (0x267F, 0x267F), (0x268A, 0x268F), (0x2693, 0x2693), (0x26A1, 0x26A1), (0x26AA, 0x26AB),
   (0x26BD, 0x26BE), (0x26C4, 0x26C5), (0x26CE, 0x26CE), (0x26D4, 0x26D4), (0x26EA, 0x26EA),
   (0x26F2, 0x26F3), (0x26F5, 0x26F5), (0x26FA, 0x26FA), (0x26FD, 0x26FD), (0x2705, 0x2705),
   (0x270A, 0x270B), (0x2728, 0x2728), (0x274C, 0x274C), (0x274E, 0x274E), (0x2753, 0x2755),
   (0x2757, 0x2757), (0x2795, 0x2797), (0x27B0, 0x27B0), (0x27BF, 0x27BF), (0x2B1B, 0x2B1C),
   (0x2B50, 0x2B50), (0x2B55, 0x2B55), (0x2E80, 0x2E99), (0x2E9B, 0x2EF3), (0x2F00, 0x2FD5),
   (0x2FF0, 0x3029), (0x3030, 0x303E), (0x3041, 0x3096), (0x309B, 0x30FF), (0x3105, 0x312F),
   (0x3131, 0x3163), (0x3165, 0x318E), (0x3190, 0x31E5), (0x31EF, 0x321E), (0x3220, 0x3247),
   (0x3250, 0xA48C), (0xA490, 0xA4C6), (0xA960, 0xA97C), (0xAC00, 0xD7A3), (0xF900, 0xFAFF),
   (0xFE10, 0xFE19), (0xFE30, 0xFE52), (0xFE54, 0xFE66), (0xFE68, 0xFE6B), (0xFF01, 0xFF60),
   (0xFFE0, 0xFFE6), (0x16FE0, 0x16FE3), (0x17000, 0x187F7), (0x18800, 0x18CD5), (0x18CFF, 0x18D08),
   (0x1AFF0, 0x1AFF3), (0x1AFF5, 0x1AFFB), (0x1AFFD, 0x1AFFE), (0x1B000, 0x1B122),
   (0x1B132, 0x1B132), (0x1B150, 0x1B152), (0x1B155, 0x1B155), (0x1B164, 0x1B167),
   (0x1B170, 0x1B2FB), (0x1D300, 0x1D356), (0x1D360, 0x1D376), (0x1F004, 0x1F004),
   (0x1F0CF, 0x1F0CF), (0x1F18E, 0x1F18E), (0x1F191, 0x1F19A), (0x1F200, 0x1F202),
   (0x1F210, 0x1F23B), (0x1F240, 0x1F248), (0x1F250, 0x1F251), (0x1F260, 0x1F265),
   (0x1F300, 0x1F320), (0x1F32D, 0x1F335), (0x1F337, 0x1F37C), (0x1F37E, 0x1F393),
   (0x1F3A0, 0x1F3CA), (0x1F3CF, 0x1F3D3), (0x1F3E0, 0x1F3F0), (0x1F3F4, 0x1F3F4),
   (0x1F3F8, 0x1F43E), (0x1F440, 0x1F440), (0x1F442, 0x1F4FC), (0x1F4FF, 0x1F53D),
   (0x1F54B, 0x1F54E), (0x1F550, 0x1F567), (0x1F57A, 0x1F57A), (0x1F595, 0x1F596),
   (0x1F5A4, 0x1F5A4), (0x1F5FB, 0x1F64F), (0x1F680, 0x1F6C5), (0x1F6CC, 0x1F6CC),
   (0x1F6D0, 0x1F6D2), (0x1F6D5, 0x1F6D7), (0x1F6DC, 0x1F6DF), (0x1F6EB, 0x1F6EC),
   (0x1F6F4, 0x1F6FC), (0x1F7E0, 0x1F7EB), (0x1F7F0, 0x1F7F0), (0x1F90C, 0x1F93A),
   (0x1F93C, 0x1F945), (0x1F947, 0x1F9FF), (0x1FA70, 0x1FA7C), (0x1FA80, 0x1FA89),
   (0x1FA8F, 0x1FAC6), (0x1FACE, 0x1FADC), (0x1FADF, 0x1FAE9), (0x1FAF0, 0x1FAF8),
   (0x20000, 0x2FFFD), (0x30000, 0x3FFFD)]

/-- Code points other than marks that fill no column. -/
def emptyRanges : List (Nat × Nat) :=
  [(0xAD, 0xAD), (0x605, 0x605), (0x61C, 0x61C), (0x70F, 0x70F), (0x890, 0x891), (0x8E2, 0x8E2),
   (0x1160, 0x11FF), (0x180E, 0x180E), (0x200B, 0x200B), (0x200D, 0x200F), (0x202A, 0x202E),
   (0x2060, 0x206F), (0x3164, 0x3164), (0xA8FA, 0xA8FA), (0xD7B0, 0xD7C6), (0xD7CB, 0xD7FB),
   (0xFEFF, 0xFEFF), (0xFFA0, 0xFFA0), (0xFFF0, 0xFFF8), (0x1BCA0, 0x1BCA3), (0x1D173, 0x1D17A),
   (0xE0000, 0xE001F), (0xE0080, 0xE00FF), (0xE01F0, 0xE0FFF)]

/-- The columns the character fills by itself. -/
def columns (n : Nat) : Nat :=
  if n ≤ 0xA0 then 1
  else if n == 0x17D8 then 3
  else if n == 0x17A4 then 2
  else if n == 0x2D7F then 1
  else if within markRanges n || within emptyRanges n then 0
  else if within wideRanges n then 2
  else 1

/-- What a selector asks of the character before it. -/
inductive Selector where
  | pictograph
  | letter
  deriving DecidableEq, Repr

/-- A letter that can be written as one sign with a letter before it. -/
inductive Ligature where
  | alef
  | lamed
  | khmerLetter
  | bugineseYa
  /-- The vowel I and, after a joiner, the letter Ya. -/
  | bugineseVowelYa
  | tifinaghLetter
  /-- The sign that joins two letters, and the second of them. -/
  | tifinaghJoined
  | lisuTone
  | orkhonI
  | vowelE
  | vowelAi
  deriving DecidableEq, Repr

/-- What follows a character, as far as the width of the character depends on it. -/
inductive Sequel where
  | plain
  | lineFeed
  | tone
  | regional
  | regionals
  | emoji
  /-- A joiner before a pictograph. -/
  | joined
  /-- A frame for a key, a joiner and a pictograph. -/
  | joinedKey
  /-- The end of the name of a flag, a joiner and a pictograph. So many letters of the name stand
      before its end, and so many digits before those. -/
  | joinedTags (letters digits : Nat)
  /-- One regional letter before a joiner and a pictograph. -/
  | joinedRegional
  /-- Regional letters before a joiner and a pictograph, and if their number is even. -/
  | joinedRegionals (even : Bool)
  /-- A letter, and if a joiner stands before it. -/
  | ligature (letter : Ligature) (joined : Bool)
  deriving DecidableEq, Repr

namespace Sequel

/-- What is left of it for a character that a selector does not concern. -/
def letterOnly : Sequel → Sequel
  | ligature l j => ligature l j
  | _ => plain

/-- It begins with a joiner, or with what may come between a joiner and a pictograph. -/
def isJoined : Sequel → Bool
  | joined | joinedKey | joinedTags _ _ | joinedRegional | joinedRegionals _ => true
  | _ => false

end Sequel

/-- Code points without a width that do break a ligature of Arabic letters. -/
def standingRanges : List (Nat × Nat) :=
  [(0x605, 0x605), (0x890, 0x891), (0x8E2, 0x8E2), (0x9BE, 0x9BE), (0x9D7, 0x9D7), (0xB3E, 0xB3E),
   (0xB57, 0xB57), (0xBBE, 0xBBE), (0xBD7, 0xBD7), (0xCC0, 0xCC0), (0xCC2, 0xCC2), (0xCC7, 0xCC8),
   (0xCCA, 0xCCB), (0xCD5, 0xCD6), (0xD3E, 0xD3E), (0xD57, 0xD57), (0xDCF, 0xDCF), (0xDDF, 0xDDF),
   (0x1160, 0x11FF), (0x1715, 0x1715), (0x1734, 0x1734), (0x180E, 0x180E), (0x1B35, 0x1B35),
   (0x1B3B, 0x1B3B), (0x1B3D, 0x1B3D), (0x1B43, 0x1B44), (0x1BAA, 0x1BAA), (0x1BF2, 0x1BF3),
   (0x200C, 0x200D), (0x2065, 0x2069), (0x302E, 0x302F), (0x3164, 0x3164), (0xA8FA, 0xA8FA),
   (0xA953, 0xA953), (0xA9C0, 0xA9C0), (0xD7B0, 0xD7C6), (0xD7CB, 0xD7FB), (0xFF9E, 0xFFA0),
   (0xFFF0, 0xFFF8), (0x111C0, 0x111C0), (0x11235, 0x11235), (0x1133E, 0x1133E), (0x1134D, 0x1134D),
   (0x11357, 0x11357), (0x113B8, 0x113B8), (0x113C2, 0x113C2), (0x113C5, 0x113C5),
   (0x113C7, 0x113C9), (0x113CF, 0x113CF), (0x114B0, 0x114B0), (0x114BD, 0x114BD),
   (0x115AF, 0x115AF), (0x116B6, 0x116B6), (0x11930, 0x11930), (0x1193D, 0x1193D),
   (0x11F41, 0x11F41), (0x16FF0, 0x16FF1), (0x1D165, 0x1D166), (0x1D16D, 0x1D172),
   (0xE0000, 0xE0000), (0xE0002, 0xE001F), (0xE0080, 0xE00FF), (0xE01F0, 0xE0FFF)]

/-- Marks that are not seen and do not break a ligature. -/
def isUnseenMark (n : Nat) : Bool :=
  n == 0x34F || n == 0x17B4 || n == 0x17B5 || (0x180B ≤ n && n ≤ 0x180D) || n == 0x180F
    || (0xFE00 ≤ n && n ≤ 0xFE0F) || (0xE0100 ≤ n && n ≤ 0xE01EF)

/-- The forms of the letter Alef. -/
def isAlef (n : Nat) : Bool :=
  within [(0x622, 0x623), (0x625, 0x625), (0x627, 0x627), (0x671, 0x673), (0x675, 0x675),
    (0x773, 0x774), (0x870, 0x882)] n

/-- The forms of the letter Lam. -/
def isLam (n : Nat) : Bool :=
  within [(0x644, 0x644), (0x6B5, 0x6B8), (0x76A, 0x76A), (0x8A6, 0x8A6), (0x8C7, 0x8C7)] n

/-- The Khmer letters that can be written below another. -/
def isKhmerLetter (n : Nat) : Bool :=
  within [(0x1780, 0x1782), (0x1784, 0x1787), (0x1789, 0x178C), (0x178E, 0x1793), (0x1795, 0x1798),
    (0x179B, 0x179D), (0x17A0, 0x17A0), (0x17A2, 0x17A2), (0x17A7, 0x17A7), (0x17AB, 0x17AC),
    (0x17AF, 0x17AF)] n

/-- The Tifinagh letters that can be joined. -/
def isTifinaghLetter (n : Nat) : Bool := (0x2D31 ≤ n && n ≤ 0x2D65) || n == 0x2D6F

/-- The columns a character fills by itself, and what it is for the character before it. -/
def alone (n : Nat) : Int × Sequel :=
  let sequel : Sequel :=
    if isRegional n then .regional
    else if isTone n then .tone
    else if within colorfulRanges n then .emoji
    else if isAlef n then .ligature .alef false
    else if n == 0x5DC then .ligature .lamed false
    else if isKhmerLetter n then .ligature .khmerLetter false
    else if n == 0x1A10 then .ligature .bugineseYa false
    else if isTifinaghLetter n then .ligature .tifinaghLetter false
    else if n == 0xA4FC || n == 0xA4FD then .ligature .lisuTone false
    else if n == 0x10C03 then .ligature .orkhonI false
    else if n == 0x16D67 then .ligature .vowelE false
    else if n == 0x16D68 then .ligature .vowelAi false
    else .plain
  (columns n, sequel)

/-- The columns a character adds to the letter that follows it, if the two are written as one. -/
def ligated? (n : Nat) (joined : Bool) : Ligature → Option (Int × Sequel)
  | .alef => if isLam n then some (0, .plain) else none
  | .lamed => if joined && n == 0x5D0 then some (0, .plain) else none
  | .khmerLetter => if n == 0x17D2 then some (-1, .plain) else none
  | .bugineseYa =>
    if joined && n == 0x1A17 then some (0, .ligature .bugineseVowelYa false) else none
  | .bugineseVowelYa => if n == 0x1A15 then some (0, .plain) else none
  | .tifinaghLetter =>
    if n == 0x2D7F then some (1, .ligature .tifinaghJoined false)
    else if joined && isTifinaghLetter n then some (0, .plain)
    else none
  | .tifinaghJoined => if isTifinaghLetter n then some (-1, .plain) else none
  | .lisuTone => if 0xA4F8 ≤ n && n ≤ 0xA4FB then some (0, .plain) else none
  | .orkhonI => if joined && n == 0x10C32 then some (0, .plain) else none
  | .vowelE =>
    if n == 0x16D63 || n == 0x16D69 then some (0, .plain)
    else if n == 0x16D67 then some (0, .ligature .vowelAi false)
    else if n == 0x16D68 then some (1, .ligature .vowelE false)
    else none
  | .vowelAi => if n == 0x16D63 then some (0, .plain) else none

/-- The columns a character adds to a letter after it, where marks and, but for Alef, joiners may
    stand between the two. -/
def beforeLetter? (n : Nat) (l : Ligature) (joined : Bool) : Option (Int × Sequel) :=
  if l = .alef then
    if isLam n then some (0, .plain)
    else if columns n == 0 && !within standingRanges n then some (0, .ligature l joined)
    else none
  else if n == 0x200D then some (0, .ligature l true)
  else if isUnseenMark n then some (0, .ligature l joined)
  else ligated? n joined l

/-- The columns a character adds to what follows it, if the two make one sign. -/
def combined? (n : Nat) : Sequel → Option (Int × Sequel)
  | .ligature l joined => beforeLetter? n l joined
  | .tone =>
    if within bodyRanges n then some (0, .emoji)
    else if n == 0x200D then some (0, .joined)
    else none
  | .regional => if isRegional n then some (1, .regionals) else none
  | .regionals =>
    if isRegional n then some (1, .regionals)
    else if n == 0x200D then some (0, .joined)
    else none
  | .emoji => if n == 0x200D then some (0, .joined) else none
  | .joined =>
    if n == 0x20E3 then some (0, .joinedKey)
    else if isRegional n then some (1, .joinedRegional)
    else if isTone n then some (0, .tone)
    else if n == 0xE007F then some (0, .joinedTags 0 0)
    else if within colorfulRanges n then some (0, .emoji)
    else none
  | .joinedRegional => if isRegional n then some (-1, .joinedRegionals true) else none
  | .joinedRegionals even =>
    if n == 0x200D then some (0, .joined)
    else if isRegional n then some (if even then 3 else -1, .joinedRegionals (!even))
    else none
  | .joinedTags letters digits =>
    if 0xE0061 ≤ n && n ≤ 0xE007A && letters < 6 && digits == 0 then
      some (0, .joinedTags (letters + 1) 0)
    else if 0xE0030 ≤ n && n ≤ 0xE0039 && letters < 5 && digits < 3 then
      some (0, .joinedTags letters (digits + 1))
    else if n == 0x1F3F4 && (digits == 3 || (3 ≤ letters && digits == 0)) then some (0, .emoji)
    else none
  | _ => none

/-- What follows a character: the characters after it, and a selector before them. -/
structure Following where
  sequel : Sequel := .plain
  selector : Option Selector := none
  deriving DecidableEq, Repr

/-- The columns a character adds to what follows it, where no selector concerns it. -/
def unselected (n : Nat) (f : Following) : Int × Following :=
  let (width, sequel) := (combined? n f.sequel).getD (alone n)
  (width, { sequel })

/-- The columns an ASCII character or another of the first ones adds to what follows it. -/
def basic (n : Nat) (f : Following) : Int × Following :=
  if n == 0xA then (1, { sequel := .lineFeed })
  else if n == 0xD && f.sequel = .lineFeed then (0, {})
  else (1, {})

/-- A selector and what follows it. -/
def select (s : Selector) (sequel : Sequel) : Following :=
  if s = .pictograph && sequel.isJoined then { sequel, selector := some s }
  else { sequel := sequel.letterOnly, selector := some s }

/-- The columns a character adds to what follows it. -/
def added (n : Nat) (f : Following) : Int × Following :=
  if f.selector = some .pictograph && within variableRanges n then
    (if f.sequel.isJoined then 0 else 2, { sequel := .emoji })
  else
    let rest := if f.selector = some .pictograph then f.sequel.letterOnly else f.sequel
    if n ≤ 0xA0 then basic n { sequel := rest }
    else if n == 0xFE0F then (0, select .pictograph rest)
    else if n == 0xFE0E then (0, select .letter rest)
    else if f.selector = some .letter && within variableRanges n && within colorfulRanges n
        && !(0x1F200 ≤ n && n ≤ 0x1F2FF) then
      (1, {})
    else unselected n { sequel := rest }

/-- The columns of a text, and what it is for a character before it. -/
def measure (cs : List Char) : Int × Following :=
  cs.foldr (fun c (total, f) => let (w, f) := added c.toNat f; (total + w, f)) (0, {})

/-- The columns the text fills. -/
def width (s : String) : Nat := (measure s.toList).1.toNat

end TaskWatch.Text
