import CephExport.Number.Double
import CephExport.Number.Numeral

/-!
The whole range of the binary64 format, with its infinities and the values that are no number, and
the reading of decimal text into it.
-/

set_option autoImplicit false
set_option relaxedAutoImplicit false

namespace CephExport

/-- A binary64 value; those that are no number are not told apart. -/
inductive Extended
  | finite (value : Double)
  | infinite (negative : Bool)
  | notANumber
  deriving DecidableEq

namespace Extended

def ofDecimal (negative : Bool) (digits : Nat) (exponent : Int) : Extended :=
  match Double.ofDecimal? negative digits exponent with
  | some value => .finite value
  | none => .infinite negative

def isFinite : Extended → Bool
  | .finite _ => true
  | _ => false

def text : Extended → String
  | .finite value => value.render Double.plainLayout
  | .infinite true => "-inf"
  | .infinite false => "inf"
  | .notANumber => "NaN"

/-- Whether a text starts with a minus sign, and the text behind its sign. -/
def splitSign : List Char → Bool × List Char
  | '-' :: rest => (true, rest)
  | '+' :: rest => (false, rest)
  | text => (false, text)

/-- The exponent that the end of a decimal number writes: nothing, or the letter and an integer. -/
def exponentPart? : List Char → Option Int
  | [] => some 0
  | mark :: rest =>
    let (negative, digits) := splitSign rest
    if (mark = 'e' ∨ mark = 'E') ∧ digits ≠ [] ∧ digits.all Char.isDigit then
      let value : Int := digitsValue digits
      some (if negative then -value else value)
    else none

/-- The number that a whole text writes in decimal: a sign, digits that a point may stand among or
at either end of, and an exponent. -/
def ofText? (text : List Char) : Option Extended :=
  let (negative, body) := splitSign text
  let whole := body.takeWhile Char.isDigit
  let (fraction, rest) :=
    match body.dropWhile Char.isDigit with
    | '.' :: rest => (rest.takeWhile Char.isDigit, rest.dropWhile Char.isDigit)
    | rest => ([], rest)
  if whole.isEmpty && fraction.isEmpty then none
  else (exponentPart? rest).map fun exponent =>
    ofDecimal negative (digitsValue (whole ++ fraction)) (exponent - fraction.length)

/-- The value without digits that a text names, in any case: an infinity, or what is no number. -/
def named? (text : List Char) : Option Extended :=
  let (negative, name) := splitSign text
  match String.ofList (name.map Char.toLower) with
  | "inf" | "infinity" => some (.infinite negative)
  | "nan" => some .notANumber
  | _ => none

/-- Where a value stands in the order of numbers. The two zeros stand at one place, and what is no
number stands above all. -/
def position : Extended → Int
  | .finite value => if value.negative then -value.magnitude else value.magnitude
  | .infinite true => -0x8000000000000000
  | .infinite false => 0x8000000000000000
  | .notANumber => 0x8000000000000001

end Extended

end CephExport
