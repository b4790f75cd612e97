import CephExport.Logging.Pattern.Reader
import CephExport.Number.Extended

/-!
The values that a directive may ask for in a field: truth values, numbers, and patterns.
-/

set_option autoImplicit false
set_option relaxedAutoImplicit false

namespace CephExport.Logging

inductive FieldValue
  | flag (value : Bool)
  | real (value : Extended)
  | unsigned (value : Nat)
  | signed (value : Int)
  | pattern (text : String)
  deriving DecidableEq

namespace FieldValue

/-- The number that a text writes, without a sign where it has none or a plus. -/
def number? (text : List Char) : Option FieldValue :=
  match unsignedWord? text with
  | some value => some (.unsigned value)
  | none =>
    match signedWord? text with
    | some value => some (.signed value)
    | none => ((Extended.ofText? text).or (Extended.named? text)).map .real

/-- The value that a text writes; what is nothing else must be a pattern. -/
def parse? (text : List Char) : Option FieldValue :=
  if text = "true".toList then some (.flag true)
  else if text = "false".toList then some (.flag false)
  else
    match number? text with
    | some value => some value
    | none =>
      if (Pattern.parse? text).any (·.isMatchable) then some (.pattern (String.ofList text))
      else none

def text : FieldValue → String
  | flag value => if value then "true" else "false"
  | real value => value.text
  | unsigned value => toString value
  | signed value => toString value
  | pattern text => text

def rank : FieldValue → Nat
  | flag _ => 0
  | real _ => 1
  | unsigned _ => 2
  | signed _ => 3
  | pattern _ => 4

/-- The order of values: by kind, and else by what they are. -/
def cmp : FieldValue → FieldValue → Ordering
  | flag a, flag b => compare a b
  | real a, real b => compare a.position b.position
  | unsigned a, unsigned b => compare a b
  | signed a, signed b => compare a b
  | pattern a, pattern b => compare a b
  | a, b => compare a.rank b.rank

end FieldValue

end CephExport.Logging
