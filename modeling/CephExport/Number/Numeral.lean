/-!
Whole numbers written with the digits of a radix up to sixteen.
-/

set_option autoImplicit false
set_option relaxedAutoImplicit false

namespace CephExport

def hexValue? (c : Char) : Option Nat :=
  if '0' ≤ c ∧ c ≤ '9' then some (c.toNat - 48)
  else if 'a' ≤ c ∧ c ≤ 'f' then some (c.toNat - 87)
  else if 'A' ≤ c ∧ c ≤ 'F' then some (c.toNat - 55)
  else none

def digitsValue (digits : List Char) : Nat :=
  digits.foldl (fun value c => value * 10 + (c.toNat - 48)) 0

/-- Read digits of a radix behind a number already read, up to the end of the text. -/
def numeralFrom? (radix value : Nat) : List Char → Option Nat
  | [] => some value
  | c :: rest =>
    match hexValue? c with
    | some digit => if digit < radix then numeralFrom? radix (value * radix + digit) rest else none
    | none => none

/-- The number that a whole text of at least one digit writes. -/
def numeral? (radix : Nat) (text : List Char) : Option Nat :=
  if text.isEmpty then none else numeralFrom? radix 0 text

/-- The text behind the plus sign that it may start with. -/
def dropPlus : List Char → List Char
  | '+' :: rest => rest
  | text => text

/-- The number that a whole text of decimal digits behind an optional plus sign writes. -/
def unsignedNumeral? (text : List Char) : Option Nat := numeral? 10 (dropPlus text)

/-- The integer that a whole text of decimal digits behind an optional sign writes. -/
def signedNumeral? : List Char → Option Int
  | '-' :: rest => (numeral? 10 rest).map fun value => -(value : Int)
  | '+' :: rest => (numeral? 10 rest).map fun value => (value : Int)
  | text => (numeral? 10 text).map fun value => (value : Int)

/-- The number that a whole text writes, if it is one of 64 bits without a sign. -/
def unsignedWord? (text : List Char) : Option Nat :=
  (unsignedNumeral? text).filter (decide <| · < 0x10000000000000000)

/-- The integer that a whole text writes, if it is one of 64 bits with a sign. -/
def signedWord? (text : List Char) : Option Int :=
  (signedNumeral? text).filter fun value =>
    decide (-0x8000000000000000 ≤ value) && decide (value < 0x8000000000000000)

/-- The character whose code point the first `count` characters of a text write in hexadecimal, and
the text behind them. -/
def codePoint? (count : Nat) (text : List Char) : Option (Char × List Char) :=
  if text.length < count then none
  else
    match numeral? 16 (text.take count) with
    | some n => if n.isValidChar then some (Char.ofNat n, text.drop count) else none
    | none => none

theorem length_of_codePoint? {count : Nat} {text rest : List Char} {c : Char}
    (h : codePoint? count text = some (c, rest)) : rest.length + count = text.length := by
  unfold codePoint? at h
  split at h
  · cases h
  · split at h
    · split at h
      · cases h
        simp only [List.length_drop]
        omega
      · cases h
    · cases h

end CephExport
