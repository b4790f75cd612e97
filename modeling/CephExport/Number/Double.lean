/-!
Numbers of the IEEE 754 binary64 format, by their bits. A decimal is rounded to the nearest number,
ties to the even one, and a number is written with the fewest digits that read back as it.
-/

set_option autoImplicit false
set_option relaxedAutoImplicit false

namespace CephExport

/-- A finite number of the binary64 format: any bit pattern but those of the infinities and of the
values that are no number. -/
structure Double where
  /-- Sign, eleven bits of exponent and fifty-two of fraction. -/
  bits : UInt64
  finite : bits.toNat / 0x10000000000000 % 0x800 < 0x7FF
  deriving DecidableEq

/-- The nearest integer to `num / den`, a tie going to the even neighbour. -/
def roundDiv (num den : Nat) : Nat :=
  let quotient := num / den
  let twice := 2 * (num % den)
  if twice < den then quotient
  else if den < twice then quotient + 1
  else quotient + quotient % 2

namespace Double

def zero : Double := ⟨0, by decide⟩

instance : Inhabited Double := ⟨zero⟩

/-- The weight of the bit that stands before the fraction of a normal number and is not written. -/
def hiddenBit : Nat := 0x10000000000000

def negative (x : Double) : Bool := 0x8000000000000000 ≤ x.bits.toNat

/-- The bits without the sign. -/
def magnitude (x : Double) : Nat := x.bits.toNat % 0x8000000000000000

def isZero (x : Double) : Bool := x.magnitude == 0

/-- Numerical equality, which does not tell the two zeros apart. -/
def sameValue (x y : Double) : Bool := x == y || (x.isZero && y.isZero)

/-- The magnitude as an integer multiple of a power of two, `(m, q)` standing for `m * 2 ^ q`. -/
def binary (x : Double) : Nat × Int :=
  let fraction := x.magnitude % hiddenBit
  let exponent : Nat := x.magnitude / hiddenBit
  if exponent = 0 then (fraction, -1074) else (fraction + hiddenBit, (exponent : Int) - 1075)

/-- The magnitude bits of the number nearest to `num / den`; past the largest finite number they
run on as if the format had further exponents. -/
def nearestMagnitude (num den : Nat) : Nat :=
  if num = 0 then 0
  else
    let estimate : Int := (num.log2 : Int) - (den.log2 : Int)
    let reached :=
      if 0 ≤ estimate then decide (den <<< estimate.toNat ≤ num)
      else decide (den ≤ num <<< (-estimate).toNat)
    let exponent := max ((if reached then estimate else estimate - 1) - 52) (-1074)
    let mantissa :=
      if 0 ≤ exponent then roundDiv num (den <<< exponent.toNat)
      else roundDiv (num <<< (-exponent).toNat) den
    (exponent + 1074).toNat * hiddenBit + mantissa

/-- The number with a sign and magnitude bits, when they are those of a finite number. -/
def ofMagnitude? (negative : Bool) (magnitude : Nat) : Option Double :=
  if magnitude < 0x7FF * hiddenBit then
    let bits := UInt64.ofNat (magnitude + if negative then 0x8000000000000000 else 0)
    if finite : bits.toNat / 0x10000000000000 % 0x800 < 0x7FF then some ⟨bits, finite⟩ else none
  else none

/-- The number nearest to `digits * 10 ^ exponent` with a sign; none when that is infinite. -/
def ofDecimal? (negative : Bool) (digits : Nat) (exponent : Int) : Option Double :=
  let places : Int := ((Nat.toDigits 10 digits).length : Int) + exponent
  if digits = 0 then ofMagnitude? negative 0
  else if 310 < places then none
  else if places < -330 then ofMagnitude? negative 0
  else if 0 ≤ exponent then
    ofMagnitude? negative (nearestMagnitude (digits * Nat.pow 10 exponent.toNat) 1)
  else ofMagnitude? negative (nearestMagnitude digits (Nat.pow 10 (-exponent).toNat))

/-- The number nearest to `num / den * 2 ^ exponent` with a sign; none when that is infinite. -/
def ofRatio? (negative : Bool) (num den : Nat) (exponent : Int) : Option Double :=
  if 0 ≤ exponent then ofMagnitude? negative (nearestMagnitude (num <<< exponent.toNat) den)
  else ofMagnitude? negative (nearestMagnitude num (den <<< (-exponent).toNat))

/-- The product of two numbers, rounded; none when it is infinite. -/
def mul? (x y : Double) : Option Double :=
  ofRatio? (x.negative != y.negative) (x.binary.1 * y.binary.1) 1 (x.binary.2 + y.binary.2)

/-- The quotient of two numbers, rounded; none when it is infinite or the second is zero. -/
def div? (x y : Double) : Option Double :=
  if y.isZero then none
  else ofRatio? (x.negative != y.negative) x.binary.1 y.binary.1 (x.binary.2 - y.binary.2)

def neg (x : Double) : Double := (ofMagnitude? (!x.negative) x.magnitude).getD zero

def ofInt (value : Int) : Double := (ofDecimal? (decide (value < 0)) value.natAbs 0).getD zero

/-- The floor of the decimal logarithm of `num / den`, both positive. -/
def floorLog10 (num den : Nat) : Int :=
  let estimate : Int := ((Nat.toDigits 10 num).length : Int) - ((Nat.toDigits 10 den).length : Int)
  let reached :=
    if 0 ≤ estimate then decide (den * Nat.pow 10 estimate.toNat ≤ num)
    else decide (den ≤ num * Nat.pow 10 (-estimate).toNat)
  if reached then estimate else estimate - 1

/-- The better of the two neighbours of `num / den` on the grid of multiples of `10 ^ place` that
lie between `low / den` and `high / den`, the ends counting where `closed`. -/
def gridPoint? (num low high den : Nat) (closed : Bool) (place : Int) : Option Nat :=
  let scaleUp := if 0 ≤ place then Nat.pow 10 place.toNat else 1
  let scaleDown := if 0 ≤ place then 1 else Nat.pow 10 (-place).toNat
  let step := scaleUp * den
  let value := num * scaleDown
  let inside (c : Nat) : Bool :=
    if closed then decide (low * scaleDown ≤ c * step) && decide (c * step ≤ high * scaleDown)
    else decide (low * scaleDown < c * step) && decide (c * step < high * scaleDown)
  let below := value / step
  let above := below + 1
  match inside below, inside above with
  | true, true =>
    let beneath := value - below * step
    let beyond := above * step - value
    if beneath < beyond then some below
    else if beyond < beneath then some above
    else some (below + below % 2)
  | true, false => some below
  | false, true => some above
  | false, false => none

/-- The first of the given digit counts whose grid has a point that reads back. -/
def firstGrid (num low high den : Nat) (closed : Bool) (top : Int) : List Nat → Nat × Int
  | [] => (num / den, 0)
  | count :: rest =>
    let place := top + 1 - (count : Int)
    match gridPoint? num low high den closed place with
    | some digits => (digits, place)
    | none => firstGrid num low high den closed top rest

/-- The decimal `(d, e)`, standing for `d * 10 ^ e`, of fewest digits that reads back as the
magnitude of the number, and the nearest to it of those. -/
def shortest (x : Double) : Nat × Int :=
  if x.isZero then (0, 0)
  else
    let (mantissa, exponent) := x.binary
    let below := if mantissa = hiddenBit ∧ -1074 < exponent then 1 else 2
    let unit := exponent - 2
    let up := if 0 ≤ unit then 1 <<< unit.toNat else 1
    let den := if 0 ≤ unit then 1 else 1 <<< (-unit).toNat
    let num := 4 * mantissa * up
    firstGrid num ((4 * mantissa - below) * up) ((4 * mantissa + 2) * up) den
      (mantissa % 2 = 0) (floorLog10 num den) (List.range' 1 17)

/-- The digits of the shortest decimal without zeros at their end, and how many of them stand
before the point. -/
def shortestDigits (x : Double) : List Char × Int :=
  let (digits, exponent) := x.shortest
  let all := Nat.toDigits 10 digits
  let kept := (all.reverse.dropWhile (· == '0')).reverse
  (kept, (all.length : Int) + exponent)

structure Layout where
  /-- The most digits before the point without an exponent. -/
  positionalAbove : Option Nat
  /-- The most zeros between the point and the first digit without an exponent. -/
  positionalBelow : Option Nat
  /-- Whether a whole number shows a fraction of zero. -/
  wholeFraction : Bool

private def zeros (count : Nat) : List Char := List.replicate count '0'

def render (layout : Layout) (x : Double) : String :=
  let sign := if x.negative then ['-'] else []
  let whole := if layout.wholeFraction then ['.', '0'] else []
  let within (limit : Option Nat) (count : Int) : Bool :=
    limit.all fun most => decide (count ≤ most)
  if x.isZero then String.ofList (sign ++ ['0'] ++ whole)
  else
    let (digits, point) := x.shortestDigits
    let body :=
      if 0 < point then
        if within layout.positionalAbove point then
          if digits.length ≤ point.toNat then digits ++ zeros (point.toNat - digits.length) ++ whole
          else digits.take point.toNat ++ ['.'] ++ digits.drop point.toNat
        else scientific digits point
      else if within layout.positionalBelow (-point) then
        ['0', '.'] ++ zeros (-point).toNat ++ digits
      else scientific digits point
    String.ofList (sign ++ body)
where
  /-- One digit, the others behind a point, and the exponent without a plus sign. -/
  scientific (digits : List Char) (point : Int) : List Char :=
    let exponent := (toString (point - 1)).toList
    match digits with
    | [] => '0' :: 'e' :: exponent
    | [d] => d :: 'e' :: exponent
    | d :: rest => d :: '.' :: rest ++ 'e' :: exponent

/-- In JSON text a number with a fraction always shows one, and exponents come in below `1e-5` and
from `1e16` on. -/
def jsonLayout : Layout := ⟨some 16, some 4, true⟩

/-- In messages a number is written out in full, and a whole one without a fraction. -/
def plainLayout : Layout := ⟨none, none, false⟩

end Double

end CephExport
