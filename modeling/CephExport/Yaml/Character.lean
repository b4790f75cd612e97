/-!
The characters of YAML documents, and the marks that a line of them may start with.
-/

set_option autoImplicit false
set_option relaxedAutoImplicit false

namespace CephExport.Yaml

def isSpace (c : Char) : Bool := c == ' ' || c == '\t'

/-- The characters that end a line, once each line feed, carriage return or next line is one line
feed. -/
def isBreak (c : Char) : Bool := c == '\n' || c.toNat == 0x2028 || c.toNat == 0x2029

/-- The mark of the order of bytes, which counts for nothing at the start of a line. -/
def byteOrderMark : Char := Char.ofNat 0xFEFF

/-- The characters of names: of anchors, of the handles of tags, and of directives. -/
def isNameChar (c : Char) : Bool := c.isAlphanum || c == '_' || c == '-'

def isFlowMark (c : Char) : Bool := c == ',' || c == '[' || c == ']' || c == '\x7b' || c == '\x7d'

/-- Whether a text is at its end, at a blank or at the end of a line. -/
def atBlank : List Char → Bool
  | [] => true
  | c :: _ => isSpace c || isBreak c

/-- Whether a line starts with the mark `mark` of the start or the end of a document. -/
def atMark (mark : String) (text : List Char) : Bool :=
  mark.toList.isPrefixOf text && atBlank (text.drop 3)

def atAnyMark (text : List Char) : Bool := atMark "---" text || atMark "..." text

def isReadable (c : Char) : Bool :=
  let n := c.toNat
  n == 9 || n == 10 || n == 13 || n == 0x85 || (32 ≤ n && n ≤ 126) ||
    (0xA0 ≤ n && n != 0xFFFE && n != 0xFFFF)

/-- A text with a line feed for each line feed, carriage return, pair of the two, or next line. -/
def joinLineEnds : List Char → List Char
  | '\r' :: '\n' :: rest => '\n' :: joinLineEnds rest
  | c :: rest => (if c = '\r' ∨ c = Char.ofNat 0x85 then '\n' else c) :: joinLineEnds rest
  | [] => []

/-- The characters of a document, if all of them may stand in one. -/
def characters? (text : String) : Option (List Char) :=
  let chars := text.toList
  let chars := if chars.head? == some byteOrderMark then chars.drop 1 else chars
  if chars.all isReadable then some (joinLineEnds chars) else none

/-- A place in a text: the number of bytes before it, and its line and column. A pair of characters
that ends a line counts as one byte. -/
structure Place where
  offset : Nat := 0
  line : Nat := 0
  column : Nat := 0
  deriving DecidableEq

namespace Place

def past (place : Place) (c : Char) : Place :=
  if isBreak c then ⟨place.offset + c.utf8Size, place.line + 1, 0⟩
  else ⟨place.offset + c.utf8Size, place.line, place.column + 1⟩

def behind (place : Place) (text : List Char) : Place := text.foldl past place

end Place

end CephExport.Yaml
