import CephExport.Yaml.Pause

/-!
Unquoted scalars: what they start with and where they end.
-/

set_option autoImplicit false
set_option relaxedAutoImplicit false

namespace CephExport.Yaml

def startsPlain (flow : Bool) : List Char → Bool
  | [] => false
  | '-' :: rest => !atBlank rest
  | '?' :: rest => !flow && !atBlank rest
  | ':' :: rest => !flow && !atBlank rest
  | c :: rest =>
    !atBlank (c :: rest) && !isFlowMark c &&
      !(['#', '&', '*', '!', '|', '>', '\'', '"', '%', '@', Char.ofNat 0x60].contains c)

structure PlainText where
  text : List Char
  broken : Bool
  rest : List Char

/-- An unquoted scalar at a column, which ends at a colon or before a comment that blanks set off,
inside brackets at their marks, which a colon may not touch, and else in front of a line that is
indented less than `indent`. No tab may stand in that indentation. -/
def plain? (flow : Bool) (indent column : Nat) (pause : Pause) (read : List Char) :
    List Char → Option PlainText
  | [] => some ⟨read.reverse, pause.isBroken, []⟩
  | c :: rest =>
    let touchesMark := rest.head?.any fun d => isFlowMark d || d == '?'
    if isBreak c then plain? flow indent 0 (pause.lineBreak c) read rest
    else if isSpace c then
      if c = '\t' ∧ pause.isBroken ∧ column < indent then none
      else plain? flow indent (column + 1) (pause.blank c) read rest
    else if !pause.isNone &&
      ((!flow && column < indent) || (column == 0 && atAnyMark (c :: rest)) || c == '#')
      then some ⟨read.reverse, pause.isBroken, c :: rest⟩
    else if flow && c == ':' && touchesMark then none
    else if (c == ':' && atBlank rest) || (flow && isFlowMark c) then
      some ⟨read.reverse, pause.isBroken, c :: rest⟩
    else plain? flow indent (column + 1) .none (c :: (pause.reversed ++ read)) rest

end CephExport.Yaml
