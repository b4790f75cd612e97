import CephExport.Json.Codec
import CephExport.Text.Blank
import CephExport.Time.Calendar

/-!
Points in time, read from the date-time form of the Internet with some freedom (blanks between
the parts, single digits, signed years) and written in UTC.
-/

set_option autoImplicit false
set_option relaxedAutoImplicit false

namespace CephExport

/-- A point in time. A leap second is the second before it with a thousand million nanoseconds
more. -/
structure Timestamp where
  seconds : Int
  nanos : Nat
  deriving DecidableEq

instance : Inhabited Timestamp := ⟨⟨0, 0⟩⟩

namespace Timestamp

def yearRange : Int × Int := (-262143, 262142)

/-- A number of one to `most` digits behind blanks, and the text behind it. -/
def number? (most : Nat) (text : List Char) : Option (Nat × List Char) :=
  let text := Text.trimStart text
  let digits := (text.take most).takeWhile Char.isDigit
  if digits.isEmpty then none
  else some (digits.foldl (fun value c => value * 10 + (c.toNat - 48)) 0, text.drop digits.length)

/-- A year: four digits at most, or a sign and any number of digits. -/
def year? (text : List Char) : Option (Int × List Char) :=
  match Text.trimStart text with
  | '-' :: rest => (unsigned rest).map fun (n, rest) => (-(n : Int), rest)
  | '+' :: rest => (unsigned rest).map fun (n, rest) => ((n : Int), rest)
  | text => (number? 4 text).map fun (n, rest) => ((n : Int), rest)
where
  unsigned (text : List Char) : Option (Nat × List Char) :=
    if (text.head?.map Char.isDigit).getD false then number? text.length text else none

def behind? (c : Char) : List Char → Option (List Char)
  | d :: rest => if d = c then some rest else none
  | [] => none

/-- The offset from UTC in seconds: `Z`, the word `UTC`, or a sign with two digits each of hours and
minutes, between which colons and blanks may stand. -/
def offset? (text : List Char) : Option (Int × List Char) :=
  if (text.take 3).map Char.toUpper = ['U', 'T', 'C'] then some (0, text.drop 3)
  else
    match text with
    | 'Z' :: rest => some (0, rest)
    | 'z' :: rest => some (0, rest)
    | sign :: h₁ :: h₂ :: rest =>
      if sign ≠ '+' ∧ sign ≠ '-' ∧ sign ≠ Char.ofNat 0x2212 then none
      else
        match rest.dropWhile (fun c => c == ':' || Text.isBlank c) with
        | m₁ :: m₂ :: rest =>
          if h₁.isDigit && h₂.isDigit && m₁.isDigit && m₂.isDigit && m₁.toNat < 54 then
            let digit (c : Char) : Int := (c.toNat : Int) - 48
            let seconds := (digit h₁ * 10 + digit h₂) * 3600 + (digit m₁ * 10 + digit m₂) * 60
            if seconds < 86400 then some (if sign = '+' then seconds else -seconds, rest) else none
          else none
        | _ => none
    | _ => none

/-- The nanoseconds of a fraction of a second, of which nine digits count, or none without one. -/
def fraction? (text : List Char) : Option (Nat × List Char) :=
  match text with
  | '.' :: rest =>
    let digits := rest.takeWhile Char.isDigit
    if digits.isEmpty then none
    else
      let kept := digits.take 9
      some (kept.foldl (fun value c => value * 10 + (c.toNat - 48)) 0 *
        Nat.pow 10 (9 - kept.length),
        rest.dropWhile Char.isDigit)
  | _ => some (0, text)

def parse? (text : String) : Option Timestamp := do
  let (year, rest) ← year? text.toList
  let rest ← behind? '-' (Text.trimStart rest)
  let (month, rest) ← number? 2 rest
  let rest ← behind? '-' (Text.trimStart rest)
  let (day, rest) ← number? 2 rest
  let rest ← match rest with
    | c :: rest => if c = 'T' ∨ c = 't' ∨ c = ' ' then some rest else none
    | [] => none
  let (hour, rest) ← number? 2 rest
  let rest ← behind? ':' (Text.trimStart rest)
  let (minute, rest) ← number? 2 rest
  let rest ← behind? ':' (Text.trimStart rest)
  let (second, rest) ← number? 2 rest
  let (nanos, rest) ← fraction? rest
  let (offset, rest) ← offset? (Text.trimStart rest)
  let date : CalendarDay := ⟨year, month, day⟩
  if !(Text.trimStart rest).isEmpty || !date.isValid ||
      23 < hour || 59 < minute || 60 < second then
    none
  else
    let leap := if second = 60 then 1 else 0
    let seconds :=
      date.toDays * 86400 + (hour * 3600 + minute * 60 + (second - leap) : Nat) - offset
    let utcYear := (CalendarDay.ofDays (seconds / 86400)).year
    if yearRange.1 ≤ year ∧ year ≤ yearRange.2 ∧ yearRange.1 ≤ utcYear ∧ utcYear ≤ yearRange.2 then
      some ⟨seconds, nanos + leap * 1000000000⟩
    else none

def padded (width n : Nat) : String :=
  let digits := Nat.toDigits 10 n
  String.ofList (List.replicate (width - digits.length) '0' ++ digits)

/-- The date and time to whole seconds, without the zone. -/
def printSeconds (t : Timestamp) : String :=
  let date := CalendarDay.ofDays (t.seconds / 86400)
  let second := (t.seconds % 86400).toNat
  let year :=
    if 0 ≤ date.year ∧ date.year ≤ 9999 then padded 4 date.year.toNat
    else (if date.year < 0 then "-" else "+") ++ padded 4 date.year.natAbs
  let leap := t.nanos / 1000000000
  year ++ "-" ++ padded 2 date.month ++ "-" ++ padded 2 date.day ++ "T" ++
    padded 2 (second / 3600) ++
    ":" ++ padded 2 (second / 60 % 60) ++ ":" ++ padded 2 (second % 60 + leap)

/-- The text in UTC with the least of no, three, six and nine digits of fraction that is exact. -/
def print (t : Timestamp) : String :=
  let nanos := t.nanos % 1000000000
  let fraction :=
    if nanos = 0 then ""
    else if nanos % 1000000 = 0 then "." ++ padded 3 (nanos / 1000000)
    else if nanos % 1000 = 0 then "." ++ padded 6 (nanos / 1000)
    else "." ++ padded 9 nanos
  t.printSeconds ++ fraction ++ "Z"

instance : Codec Timestamp := ⟨fun t => .string t.print, fun json => json.string?.bind parse?⟩

end Timestamp

/-- A point in time in the metadata of an object, which is written without its fraction. -/
structure MetaTime where
  time : Timestamp
  deriving DecidableEq

instance : Codec MetaTime where
  encode t := .string (t.time.printSeconds ++ "Z")
  decode? json := (json.string?.bind Timestamp.parse?).map MetaTime.mk

end CephExport
