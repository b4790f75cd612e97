import CephExport.Number.Numeral
import CephExport.Yaml.Pause

/-!
Scalars in quotes: what quotes and escapes stand for, and how their lines are folded.
-/

set_option autoImplicit false
set_option relaxedAutoImplicit false

namespace CephExport.Yaml

/-- The text of a scalar in apostrophes behind the first, two of which stand for one, and the text
behind the last. -/
def singleQuoted? (pause : Pause) (read : List Char) : List Char → Option (List Char × List Char)
  | [] => none
  | '\'' :: '\'' :: rest => singleQuoted? .none ('\'' :: (pause.reversed ++ read)) rest
  | '\'' :: rest => some ((pause.reversed ++ read).reverse, rest)
  | c :: rest =>
    if isBreak c then if atAnyMark rest then none else singleQuoted? (pause.lineBreak c) read rest
    else if isSpace c then singleQuoted? (pause.blank c) read rest
    else singleQuoted? .none (c :: (pause.reversed ++ read)) rest

def letterEscape? (c : Char) : Option Char :=
  match c with
  | '0' => some (Char.ofNat 0)
  | 'a' => some (Char.ofNat 7)
  | 'b' => some (Char.ofNat 8)
  | 't' => some '\t'
  | '\t' => some '\t'
  | 'n' => some '\n'
  | 'v' => some (Char.ofNat 11)
  | 'f' => some (Char.ofNat 12)
  | 'r' => some '\r'
  | 'e' => some (Char.ofNat 27)
  | ' ' => some ' '
  | '"' => some '"'
  | '/' => some '/'
  | '\\' => some '\\'
  | 'N' => some (Char.ofNat 0x85)
  | '_' => some (Char.ofNat 0xA0)
  | 'L' => some (Char.ofNat 0x2028)
  | 'P' => some (Char.ofNat 0x2029)
  | _ => none

/-- The character that the text behind a backslash stands for, and the text behind that. -/
def escaped? : List Char → Option (Char × List Char)
  | [] => none
  | c :: rest =>
    if c = 'x' then codePoint? 2 rest
    else if c = 'u' then codePoint? 4 rest
    else if c = 'U' then codePoint? 8 rest
    else (letterEscape? c).map fun c => (c, rest)

theorem length_of_escaped? {text rest : List Char} {c : Char} (h : escaped? text = some (c, rest)) :
    rest.length < text.length := by
  cases text with
  | nil => simp [escaped?] at h
  | cons d text =>
    simp only [escaped?] at h
    split at h
    · have := length_of_codePoint? h
      simp only [List.length_cons]
      omega
    · split at h
      · have := length_of_codePoint? h
        simp only [List.length_cons]
        omega
      · split at h
        · have := length_of_codePoint? h
          simp only [List.length_cons]
          omega
        · obtain ⟨e, _, he⟩ := Option.map_eq_some_iff.1 h
          cases he
          simp

/-- The text of a scalar in quotes behind the first, with its escapes undone, and the text behind
the last. An escaped line break counts for nothing. -/
def doubleQuoted? (pause : Pause) (read text : List Char) : Option (List Char × List Char) :=
  match text with
  | [] => none
  | '"' :: rest => some ((pause.reversed ++ read).reverse, rest)
  | '\\' :: rest =>
    if atBreak rest then
      if atAnyMark (rest.drop 1) then none
      else doubleQuoted? (.joined []) (pause.reversed ++ read) (rest.drop 1)
    else
      match _h : escaped? rest with
      | some (c, rest) => doubleQuoted? .none (c :: (pause.reversed ++ read)) rest
      | none => none
  | c :: rest =>
    if isBreak c then if atAnyMark rest then none else doubleQuoted? (pause.lineBreak c) read rest
    else if isSpace c then doubleQuoted? (pause.blank c) read rest
    else doubleQuoted? .none (c :: (pause.reversed ++ read)) rest
termination_by text.length
decreasing_by
  · simp only [List.length_cons, List.length_drop]
    omega
  · have := length_of_escaped? _h
    simp only [List.length_cons]
    omega
  all_goals simp
where
  atBreak : List Char → Bool
    | [] => false
    | c :: _ => isBreak c

end CephExport.Yaml
