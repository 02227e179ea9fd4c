import TaskWatch.Json.Lexical
import TaskWatch.Text.Digits
import TaskWatch.Text.Utf8

/-! The names of servers.

    A server is named by a domain, by up to four numbers with dots between them, or in brackets by
    eight groups of hexadecimal digits, of which one run of zeros may be left out. Octets of a
    domain may be written by their numbers. Before the name there may be a user, and after it a
    number behind a colon. -/

namespace TaskWatch.Source

/-- The octets of a text in which octets may be written by their numbers. -/
def unescaped : List Char → List UInt8
  | '%' :: a :: b :: rest =>
    match Json.hexValue? a, Json.hexValue? b with
    | some x, some y => UInt8.ofNat (16 * x + y) :: unescaped rest
    | _, _ => '%'.toString.toUTF8.toList ++ unescaped (a :: b :: rest)
  | c :: rest => c.toString.toUTF8.toList ++ unescaped rest
  | [] => []

/-- A character that a domain cannot hold. -/
def isForbidden (c : Char) : Bool :=
  c.toNat ≤ 0x20 || c.toNat == 0x7F
    || ['#', '%', '/', ':', '<', '>', '?', '@', '[', '\\', ']', '^', '|', Char.ofNat 0xFFFD].contains c

/-- The value of digits to a base, if all of them are digits to that base. -/
def digitsValue? (base : Nat) (cs : List Char) : Option Nat :=
  cs.foldl (fun value c => do
    let d ← Json.hexValue? c
    if d < base then return (← value) * base + d else none) (some 0)

/-- A number in the name of a server: hexadecimal after `0x`, octal after a zero, else decimal. -/
def hostNumber? : List Char → Option Nat
  | [] => none
  | '0' :: 'x' :: rest | '0' :: 'X' :: rest => digitsValue? 16 rest
  | '0' :: c :: rest => digitsValue? 8 (c :: rest)
  | cs => digitsValue? 10 cs

/-- The parts of a domain, without an empty one at its end. -/
def labels (domain : String) : List (List Char) :=
  let parts := (domain.splitOn ".").map (·.toList)
  if 1 < parts.length && parts.getLast? == some [] then parts.dropLast else parts

/-- The domain is meant as numbers, for its last part is one. -/
def isNumeric (parts : List (List Char)) : Bool :=
  match parts.getLast? with
  | some p => !p.isEmpty && (p.all Text.isDigit || (hostNumber? p).isSome)
  | none => false

/-- Up to four numbers. All but the last are octets, and the last fills what they leave of four. -/
def isFourOctets (parts : List (List Char)) : Bool :=
  match parts.mapM hostNumber? with
  | some numbers =>
    let last := numbers.getLast?.getD 0
    numbers.length ≤ 4 && numbers.dropLast.all (· ≤ 255) && last < Nat.pow 256 (5 - numbers.length)
  | none => false

/-- A domain, or numbers in place of one. -/
def isDomain (name : List Char) : Bool :=
  let domain := Text.ofOctets (unescaped name)
  let parts := labels domain
  !domain.isEmpty && !domain.toList.any isForbidden && (!isNumeric parts || isFourOctets parts)

/-- One of the groups of hexadecimal digits. -/
def isGroup (cs : List Char) : Bool :=
  1 ≤ cs.length && cs.length ≤ 4 && cs.all (fun c => (Json.hexValue? c).isSome)

/-- Four octets in decimal digits, in place of the last two groups. -/
def isDotted (cs : List Char) : Bool :=
  let parts := ((String.ofList cs).splitOn ".").map (·.toList)
  parts.length == 4 && parts.all (fun p =>
    !p.isEmpty && p.all Text.isDigit && (p.length == 1 || p.head? != some '0') && Text.number p ≤ 255)

/-- How many groups a text holds, which is none where one of them is malformed. -/
def groups? (s : String) (atEnd : Bool) : Option Nat :=
  if s.isEmpty then some 0
  else
    let parts := (s.splitOn ":").map (·.toList)
    let last := parts.getLast?.getD []
    if parts.all isGroup then some parts.length
    else if atEnd && parts.dropLast.all isGroup && isDotted last then some (parts.length + 1)
    else none

/-- Eight groups, where a pair of colons stands for a run of zeros. -/
def isEightGroups (cs : List Char) : Bool :=
  match (String.ofList cs).splitOn "::" with
  | [all] => groups? all true == some 8
  | [before, after] =>
    match groups? before false, groups? after true with
    | some m, some n => m + n ≤ 7
    | _, _ => false
  | _ => false

/-- Nothing, or a colon and a number that a server can have. -/
def isColonNumber : List Char → Bool
  | [] => true
  | c :: digits => c == ':' && digits.all Text.isDigit && Text.number digits ≤ 65535

/-- The name of a server, with a user before it or without, and with a number behind a colon or
    without. -/
def isServer (authority : List Char) : Bool :=
  match (authority.reverse.takeWhile (· != '@')).reverse with
  | '[' :: rest =>
    let name := rest.takeWhile (· != ']')
    let after := rest.drop name.length
    after.head? == some ']' && isEightGroups name && isColonNumber (after.drop 1)
  | rest =>
    let name := rest.takeWhile (· != ':')
    isDomain name && isColonNumber (rest.drop name.length)

end TaskWatch.Source
