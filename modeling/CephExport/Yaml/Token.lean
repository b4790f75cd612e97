import CephExport.Yaml.Tag

/-!
The tokens of YAML documents. The indentation of blocks is given by tokens for their starts and
ends.
-/

set_option autoImplicit false
set_option relaxedAutoImplicit false

namespace CephExport.Yaml

inductive Token
  | directive (value : Directive)
  | documentStart
  | documentEnd
  /-- The start of a sequence or mapping outside brackets, and the end of either. -/
  | sequenceStart
  | mappingStart
  | blockEnd
  /-- The marks of sequences in brackets, and of mappings in braces. -/
  | bracketOpen
  | bracketClose
  | braceOpen
  | braceClose
  | comma
  | dash
  /-- The start of a key, which a question mark may stand for, and of the value behind it. -/
  | key
  | value
  /-- The name of a node that stands elsewhere, and a name for the node that follows. -/
  | reference (name : List Char)
  | anchor (name : List Char)
  | tag (value : Tag)
  /-- A scalar, and whether it is written without quotes. -/
  | scalar (text : List Char) (plain : Bool)
  deriving DecidableEq

end CephExport.Yaml
