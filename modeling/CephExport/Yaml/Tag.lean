import CephExport.Number.Numeral
import CephExport.Yaml.Character

/-!
The tags of nodes as they are written: a handle, which a directive may give a meaning, and what
follows it.
-/

set_option autoImplicit false
set_option relaxedAutoImplicit false

namespace CephExport.Yaml

/-- The characters of a tag; none stands for octets that write no character. -/
abbrev TagText := List (Option Char)

/-- A tag whose handle still has to be looked up. A tag that is written in full has an empty
handle. -/
structure Tag where
  handle : List Char
  suffix : TagText
  deriving DecidableEq

/-- A character of which octets have been read: how many are still to come, the value so far, and
the least value that takes so many octets. -/
structure OpenChar where
  count : Nat
  value : Nat
  least : Nat

namespace OpenChar

def ofLead? (octet : Nat) : Option OpenChar :=
  if octet < 0x80 then some ⟨0, octet, 0⟩
  else if octet < 0xC0 then none
  else if octet < 0xE0 then some ⟨1, octet % 0x20, 0x80⟩
  else if octet < 0xF0 then some ⟨2, octet % 0x10, 0x800⟩
  else if octet < 0xF8 then some ⟨3, octet % 0x08, 0x10000⟩
  else none

def more? (part : OpenChar) (octet : Nat) : Option OpenChar :=
  if octet / 0x40 = 2 then some ⟨part.count - 1, part.value * 0x40 + octet % 0x40, part.least⟩
  else none

/-- The character that has been read, if there is one of its value. -/
def char? (part : OpenChar) : Option Char :=
  if part.least ≤ part.value ∧ part.value.isValidChar then some (Char.ofNat part.value) else none

end OpenChar

/-- The characters of tags; inside angle brackets and in directives there are more of them. -/
def isTagChar (wide : Bool) (c : Char) : Bool :=
  isNameChar c ||
    [';', '/', '?', ':', '@', '&', '=', '+', '$', '.', '%', '!', '~', '*', '\'', '(',
      ')'].contains c ||
    (wide && [',', '[', ']'].contains c)

/-- A tag with the octets that percent signs write in it joined into characters, where `part` is the
character that the octets in front of the text belong to. -/
def decodeTag? (part : Option OpenChar) : List Char → Option TagText
  | [] => if part.isNone then some [] else none
  | '%' :: high :: low :: rest =>
    match hexValue? high, hexValue? low with
    | some high, some low =>
      let octet := high * 16 + low
      match (match part with
        | none => OpenChar.ofLead? octet
        | some part => part.more? octet) with
      | none => none
      | some part =>
        if part.count = 0 then (decodeTag? none rest).map (part.char? :: ·)
        else decodeTag? (some part) rest
    | _, _ => none
  | '%' :: _ => none
  | c :: rest => if part.isNone then (decodeTag? none rest).map (some c :: ·) else none

/-- A tag up to the first null character in it, which ends it. -/
def TagText.untilNull (text : TagText) : TagText := text.takeWhile (· != some (Char.ofNat 0))

/-- The part of a tag at the head of a text, and the text behind it. -/
def tagPart? (wide : Bool) (text : List Char) : Option (TagText × List Char) :=
  (decodeTag? none (text.takeWhile (isTagChar wide))).map fun part =>
    (part.untilNull, text.dropWhile (isTagChar wide))

/-- The part of a tag at the head of a text, which takes at least one character of it. -/
def nonemptyTagPart? (wide : Bool) (text : List Char) : Option (TagText × List Char) :=
  if text.head?.any (isTagChar wide) then tagPart? wide text else none

namespace Tag

def mark : Tag := ⟨[], [some '!']⟩

/-- The tag behind its exclamation mark, and the text behind it. -/
def read? : List Char → Option (Tag × List Char)
  | '<' :: rest =>
    match nonemptyTagPart? true rest with
    | some (suffix, '>' :: rest) => some (⟨[], suffix⟩, rest)
    | _ => none
  | text =>
    let name := text.takeWhile isNameChar
    match text.dropWhile isNameChar with
    | '!' :: rest =>
      (nonemptyTagPart? false rest).map fun (suffix, rest) =>
        (⟨'!' :: (name ++ ['!']), suffix⟩, rest)
    | _ => (tagPart? false text).map fun (suffix, rest) =>
      (if suffix.isEmpty then mark else ⟨['!'], suffix⟩, rest)

def mayEnd (flow : Bool) (rest : List Char) : Bool :=
  atBlank rest || (flow && rest.head? == some ',')

end Tag

inductive Directive
  | version (major minor : Nat)
  | handle (name : List Char) (meaning : TagText)
  deriving DecidableEq

namespace Directive

/-- A number of at most nine digits, and the text behind it. -/
def number? (text : List Char) : Option (Nat × List Char) :=
  let digits := text.takeWhile Char.isDigit
  if digits.isEmpty ∨ 9 < digits.length then none
  else some (digitsValue digits, text.dropWhile Char.isDigit)

def version? (text : List Char) : Option (Directive × List Char) :=
  match number? (text.dropWhile isSpace) with
  | some (major, '.' :: rest) =>
    (number? rest).map fun (minor, rest) => (.version major minor, rest)
  | _ => none

def handle? (text : List Char) : Option (Directive × List Char) :=
  match text.dropWhile isSpace with
  | '!' :: rest =>
    let name := rest.takeWhile isNameChar
    let named := match rest.dropWhile isNameChar with
      | '!' :: rest => some ('!' :: (name ++ ['!']), rest)
      | rest => if name.isEmpty then some (['!'], rest) else none
    match named with
    | none => none
    | some (name, rest) =>
      match rest with
      | c :: _ =>
        if isSpace c then
          match nonemptyTagPart? true (rest.dropWhile isSpace) with
          | some (meaning, rest) => if atBlank rest then some (.handle name meaning, rest) else none
          | none => none
        else none
      | [] => none
  | _ => none

/-- The directive behind its percent sign, and the text behind its line. -/
def read? (text : List Char) : Option (Directive × List Char) :=
  let rest := text.dropWhile isNameChar
  let read :=
    if !(atBlank rest) then none
    else
      match String.ofList (text.takeWhile isNameChar) with
      | "YAML" => version? rest
      | "TAG" => handle? rest
      | _ => none
  match read with
  | none => none
  | some (directive, rest) =>
    let rest := rest.dropWhile isSpace
    let rest := if rest.head? == some '#' then rest.dropWhile (! isBreak ·) else rest
    if atBlank rest then some (directive, rest.drop 1) else none

end Directive

end CephExport.Yaml
