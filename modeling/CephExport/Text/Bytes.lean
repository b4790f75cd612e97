/-!
Cutting text by the bytes of its encoding in UTF-8. A cut within a character is none.
-/

set_option autoImplicit false
set_option relaxedAutoImplicit false

namespace CephExport.Text

def byteCount : List Char → Nat
  | [] => 0
  | c :: rest => c.utf8Size + byteCount rest

/-- The text in front of a cut at a number of bytes, and the text behind it. -/
def cutAt? : Nat → List Char → Option (List Char × List Char)
  | 0, text => some ([], text)
  | _ + 1, [] => none
  | count + 1, c :: rest =>
    if c.utf8Size ≤ count + 1 then
      (cutAt? (count + 1 - c.utf8Size) rest).map fun (before, behind) => (c :: before, behind)
    else none
termination_by _ text => text.length

def takeBytes? (count : Nat) (text : List Char) : Option (List Char) :=
  (cutAt? count text).map Prod.fst

def dropBytes? (count : Nat) (text : List Char) : Option (List Char) :=
  (cutAt? count text).map Prod.snd

end CephExport.Text
