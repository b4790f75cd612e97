import CephExport.Yaml.Character

/-!
Folding: what the blanks and line breaks between two pieces of a scalar stand for.
-/

set_option autoImplicit false
set_option relaxedAutoImplicit false

namespace CephExport.Yaml

/-- What stands between the last character read and the next one, the latest first. -/
inductive Pause
  | blanks (held : List Char)
  /-- Line breaks, the blanks around which are dropped. -/
  | breaks (held : List Char)
  /-- Line breaks behind an escaped one, which counts for nothing. -/
  | joined (held : List Char)

namespace Pause

def none : Pause := blanks []

def isNone : Pause → Bool
  | blanks [] => true
  | _ => false

def isBroken : Pause → Bool
  | blanks _ => false
  | _ => true

/-- The text that line breaks stand for, in order: a line feed alone is a space, and a line feed in
front of others is dropped. -/
def folded : List Char → List Char
  | ['\n'] => [' ']
  | '\n' :: others => others
  | others => others

def reversed : Pause → List Char
  | blanks held => held
  | breaks held => (folded held.reverse).reverse
  | joined held => held

def blank (c : Char) : Pause → Pause
  | blanks held => blanks (c :: held)
  | pause => pause

def lineBreak (c : Char) : Pause → Pause
  | blanks _ => breaks [c]
  | breaks held => breaks (c :: held)
  | joined held => joined (c :: held)

end Pause

end CephExport.Yaml
