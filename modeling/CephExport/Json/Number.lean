import CephExport.Json.Basic
import CephExport.Number.Numeral

/-!
Reading the numbers of JSON text. An integer of 64 bits is exact. Any other number is read in steps,
each of which rounds: its first digits, as many as 64 bits hold, become a binary64 number, which is
then multiplied or divided by powers of ten. So what is read need not be the number nearest to the
decimal.
-/

set_option autoImplicit false
set_option relaxedAutoImplicit false

namespace CephExport.Json

/-- Take digits behind a number already read while the number has 64 bits; the number and the text
behind the digits taken. -/
def takeDigits (value : Nat) : List Char → Nat × List Char
  | [] => (value, [])
  | c :: rest =>
    let more := value * 10 + (c.toNat - 48)
    if c.isDigit ∧ more < 0x10000000000000000 then takeDigits more rest else (value, c :: rest)

def largestStep : Nat := 308

def stepPower (exponent : Nat) : Double := (Double.ofDecimal? false 1 exponent).getD .zero

/-- A number divided a few times by the largest power of a step and once by a last power. -/
def scaledDown (last x : Double) : Nat → Option Double
  | 0 => x.div? last
  | steps + 1 =>
    if x.isZero then some x
    else
      match x.div? (stepPower largestStep) with
      | some x => scaledDown last x steps
      | none => none

/-- A number times a power of ten; none when that is too large. -/
def scaled (x : Double) (exponent : Int) : Option Double :=
  if exponent < 0 then
    let steps := ((-exponent).toNat - 1) / largestStep
    scaledDown (stepPower ((-exponent).toNat - steps * largestStep)) x steps
  else if exponent ≤ largestStep then x.mul? (stepPower exponent.toNat)
  else if x.isZero then some x
  else none

/-- The number that digits and an exponent of ten write; none when it is too large. -/
def decimal? (negative : Bool) (digits : Nat) (exponent : Int) : Option JsonNumber :=
  (scaled (.ofInt digits) exponent).map fun x => .real (if negative then x.neg else x)

/-- The number of a whole number without fraction and exponent. Minus zero is no integer. -/
def wholeNumber? (negative : Bool) (digits : Nat) : Option JsonNumber :=
  if negative then
    if digits = 0 ∨ 0x8000000000000000 < digits then decimal? negative digits 0
    else some (.integer (-(digits : Int)))
  else some (.integer digits)

/-- The fraction at the head of a text: the digits of the number with those of the fraction that 64
bits hold, how many these are, and the text behind the fraction. -/
def fractionPart? (digits : Nat) : List Char → Option (Nat × Nat × List Char)
  | '.' :: text =>
    if (text.head?.any Char.isDigit) then
      let (digits, rest) := takeDigits digits text
      let places := (text.takeWhile Char.isDigit).length - (rest.takeWhile Char.isDigit).length
      some (digits, places, rest.dropWhile Char.isDigit)
    else none
  | text => some (digits, 0, text)

/-- The exponent at the head of a text, if there is one, and the text behind it. -/
def exponentPart? : List Char → Option (Option Int × List Char)
  | [] => some (none, [])
  | mark :: text =>
    if mark = 'e' ∨ mark = 'E' then
      let minus := text.head? == some '-'
      let text := if minus || text.head? == some '+' then text.drop 1 else text
      let digits := text.takeWhile Char.isDigit
      if digits.isEmpty then none
      else
        let value : Int := digitsValue digits
        some (some (if minus then -value else value), text.dropWhile Char.isDigit)
    else some (none, mark :: text)

/-- The number at the head of a text, and the text behind it; no number where it is too large. Its
integer part has no leading zeros, and fraction and exponent have digits. -/
def numberText (text : List Char) : Option (Option JsonNumber × List Char) :=
  let negative := text.head? == some '-'
  let text := if negative then text.drop 1 else text
  let whole := text.takeWhile Char.isDigit
  if whole.isEmpty || (whole.length != 1 && whole.head? == some '0') then none
  else
    let (digits, rest) := takeDigits 0 text
    let dropped := (rest.takeWhile Char.isDigit).length
    let behind := rest.dropWhile Char.isDigit
    match fractionPart? digits behind with
    | none => none
    | some (withFraction, places, afterFraction) =>
      match exponentPart? afterFraction with
      | none => none
      | some (exponent, rest) =>
        if dropped = 0 ∧ behind.head? ≠ some '.' ∧ exponent.isNone then
          some (wholeNumber? negative digits, rest)
        else
          some (decimal? negative withFraction (exponent.getD 0 + dropped - places), rest)

end CephExport.Json
