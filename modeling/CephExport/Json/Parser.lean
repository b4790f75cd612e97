import CephExport.Json.Number

/-!
Reading JSON text. A value is read as it is written, to any depth. A value that is settled has one
member under each key, the last one written; it nests at most 127 deep, and all that stands in it
can be read.
-/

set_option autoImplicit false
set_option relaxedAutoImplicit false

namespace CephExport.Json

def isBlank (c : Char) : Bool := c == ' ' || c == '\n' || c == '\t' || c == '\r'

def skipBlanks (text : List Char) : List Char := text.dropWhile isBlank

def hexQuad? (a b c d : Char) : Option Nat := do
  let a ← hexValue? a
  let b ← hexValue? b
  let c ← hexValue? c
  let d ← hexValue? d
  some (a * 4096 + b * 256 + c * 16 + d)

/-- The escaped second half of a pair of surrogates at the head of a text, and the text behind
it. -/
def lowSurrogate? : List Char → Option (Nat × List Char)
  | '\\' :: 'u' :: a :: b :: c :: d :: rest =>
    match hexQuad? a b c d with
    | some unit => if 0xDC00 ≤ unit ∧ unit ≤ 0xDFFF then some (unit - 0xDC00, rest) else none
    | none => none
  | _ => none

theorem length_of_lowSurrogate? {text rest : List Char} {low : Nat}
    (h : lowSurrogate? text = some (low, rest)) : rest.length < text.length := by
  unfold lowSurrogate? at h
  split at h
  · split at h
    · split at h
      · simp only [Option.some.injEq, Prod.mk.injEq] at h
        rw [← h.2]
        simp only [List.length_cons]
        omega
      · simp at h
    · simp at h
  · simp at h

/-- The characters of a string up to its closing quote, and the text behind that; no characters
where half a pair of surrogates stands alone. Control characters must be escaped. -/
def stringBody (text : List Char) (read : Option (List Char)) :
    Option (Option String × List Char) :=
  match text with
  | [] => none
  | '"' :: rest => some (read.map fun chars => String.ofList chars.reverse, rest)
  | '\\' :: 'u' :: a :: b :: c :: d :: rest =>
    match hexQuad? a b c d with
    | none => none
    | some unit =>
      if 0xD800 ≤ unit ∧ unit ≤ 0xDBFF then
        match _h : lowSurrogate? rest with
        | some (low, rest) =>
          stringBody rest (read.map (Char.ofNat (0x10000 + (unit - 0xD800) * 1024 + low) :: ·))
        | none => stringBody rest none
      else if 0xDC00 ≤ unit ∧ unit ≤ 0xDFFF then stringBody rest none
      else stringBody rest (read.map (Char.ofNat unit :: ·))
  | '\\' :: c :: rest =>
    match escaped? c with
    | some c => stringBody rest (read.map (c :: ·))
    | none => none
  | c :: rest => if c.toNat < 32 then none else stringBody rest (read.map (c :: ·))
termination_by text.length
decreasing_by
  · have := length_of_lowSurrogate? _h
    simp only [List.length_cons]
    omega
  all_goals
    simp only [List.length_cons]
    omega
where
  escaped? (c : Char) : Option Char :=
    if c = '"' ∨ c = '\\' ∨ c = '/' then some c
    else if c = 'b' then some (Char.ofNat 8)
    else if c = 'f' then some (Char.ofNat 12)
    else if c = 'n' then some '\n'
    else if c = 'r' then some '\r'
    else if c = 't' then some '\t'
    else none

def afterWord? (word text : List Char) : Option (List Char) :=
  if word.isPrefixOf text then some (text.drop word.length) else none

/-- The object of members read last to first; none of it can be read if one of its keys cannot. -/
def objectOf (read : List (Option String × Json)) : Json :=
  match read.reverse.mapM fun (key, value) => key.map fun key => (key, value) with
  | some members => .object members
  | none => .unreadable

mutual

/-- A value at the head of a text without leading blanks, and the text behind it. `fuel` bounds the
steps. -/
def value (fuel : Nat) (text : List Char) : Option (Json × List Char) :=
  match fuel with
  | 0 => none
  | fuel + 1 =>
    match text with
    | [] => none
    | '"' :: rest => (stringBody rest (some [])).map fun (s, rest) =>
      ((s.map .string).getD .unreadable, rest)
    | '[' :: rest =>
      match skipBlanks rest with
      | ']' :: rest => some (.array [], rest)
      | rest => items fuel rest []
    | '\x7b' :: rest =>
      match skipBlanks rest with
      | '\x7d' :: rest => some (.object [], rest)
      | rest => objectMembers fuel rest []
    | 'n' :: _ => (afterWord? "null".toList text).map fun rest => (.null, rest)
    | 't' :: _ => (afterWord? "true".toList text).map fun rest => (.bool true, rest)
    | 'f' :: _ => (afterWord? "false".toList text).map fun rest => (.bool false, rest)
    | _ => (numberText text).map fun (n, rest) => ((n.map .number).getD .unreadable, rest)

/-- The items of an array from the head of a text on, to the closing bracket. -/
def items (fuel : Nat) (text : List Char) (read : List Json) : Option (Json × List Char) :=
  match fuel with
  | 0 => none
  | fuel + 1 =>
    match value fuel (skipBlanks text) with
    | none => none
    | some (item, rest) =>
      match skipBlanks rest with
      | ',' :: rest => items fuel rest (item :: read)
      | ']' :: rest => some (.array (item :: read).reverse, rest)
      | _ => none

/-- The members of an object from the head of a text on, to the closing brace. -/
def objectMembers (fuel : Nat) (text : List Char) (read : List (Option String × Json)) :
    Option (Json × List Char) :=
  match fuel with
  | 0 => none
  | fuel + 1 =>
    match skipBlanks text with
    | '"' :: rest =>
      match stringBody rest (some []) with
      | none => none
      | some (key, rest) =>
        match skipBlanks rest with
        | ':' :: rest =>
          match value fuel (skipBlanks rest) with
          | none => none
          | some (item, rest) =>
            match skipBlanks rest with
            | ',' :: rest => objectMembers fuel rest ((key, item) :: read)
            | '\x7d' :: rest => some (objectOf ((key, item) :: read), rest)
            | _ => none
        | _ => none
    | _ => none

end

/-- The value that a whole text writes, as it is written. -/
def written? (text : String) : Option Json :=
  let chars := skipBlanks text.toList
  match value (2 * chars.length + 2) chars with
  | some (json, rest) => if (skipBlanks rest).isEmpty then some json else none
  | none => none

/-- The settled form of a value that nests at most `depth` deep. -/
def settled? (depth : Nat) : Json → Option Json
  | .unreadable => none
  | .array items =>
    match depth with
    | 0 => none
    | depth + 1 => (settledItems? depth items).map .array
  | .object members =>
    match depth with
    | 0 => none
    | depth + 1 => (settledMembers? depth members []).map .object
  | json => some json
where
  settledItems? (depth : Nat) : List Json → Option (List Json)
    | [] => some []
    | item :: rest =>
      match settled? depth item, settledItems? depth rest with
      | some item, some items => some (item :: items)
      | _, _ => none
  /-- The settled forms of the members of an object, put over those already settled. -/
  settledMembers? (depth : Nat) : Members → Members → Option Members
    | [], settled => some settled
    | (key, item) :: rest, settled =>
      match settled? depth item with
      | some item => settledMembers? depth rest (insertMember key item settled)
      | none => none

def parse? (text : String) : Option Json := (written? text).bind (settled? 127)

end CephExport.Json
