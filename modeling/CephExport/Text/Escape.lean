import CephExport.Number.Numeral

/-!
Escapes in quoted settings: a backslash with a letter, or with the code point of a character in four
or eight hexadecimal digits.
-/

set_option autoImplicit false
set_option relaxedAutoImplicit false

namespace CephExport.Text

def letterEscape? (c : Char) : Option Char :=
  if c = '"' ∨ c = '\\' then some c
  else if c = 'b' then some (Char.ofNat 8)
  else if c = 't' then some '\t'
  else if c = 'n' then some '\n'
  else if c = 'f' then some (Char.ofNat 12)
  else if c = 'r' then some '\r'
  else none

/-- The character that the text behind a backslash stands for, and the text behind that. -/
def escaped? : List Char → Option (Char × List Char)
  | [] => none
  | c :: rest =>
    if c = 'u' then codePoint? 4 rest
    else if c = 'U' then codePoint? 8 rest
    else (letterEscape? c).map fun c => (c, rest)

theorem length_of_escaped? {text rest : List Char} {c : Char} (h : escaped? text = some (c, rest)) :
    rest.length < text.length := by
  cases text with
  | nil => simp [escaped?] at h
  | cons d text =>
    simp only [escaped?] at h
    split at h
    · have := length_of_codePoint? h
      simp only [List.length_cons]
      omega
    · split at h
      · have := length_of_codePoint? h
        simp only [List.length_cons]
        omega
      · obtain ⟨e, _, he⟩ := Option.map_eq_some_iff.1 h
        cases he
        simp

end CephExport.Text
