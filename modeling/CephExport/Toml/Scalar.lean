import CephExport.Settings.Value
import CephExport.Text.Escape
import CephExport.Time.Calendar

/-!
The scalars of TOML text: the four kinds of strings, and the unquoted words that are truth values,
numbers, dates and times. Lines end in a line feed alone here.
-/

set_option autoImplicit false
set_option relaxedAutoImplicit false

namespace CephExport.Toml

open CephExport.Settings (Value)

/-- The characters that may stand in strings and comments as they are. -/
def isPlain (c : Char) : Bool := c == '\t' || (32 ≤ c.toNat && c.toNat != 127)

def isSpace (c : Char) : Bool := c == ' ' || c == '\t'

/-- A string up to its closing quote, with escapes. -/
def basicBody (text read : List Char) : Option (String × List Char) :=
  match text with
  | [] => none
  | '"' :: rest => some (String.ofList read.reverse, rest)
  | '\\' :: rest =>
    match _h : Text.escaped? rest with
    | some (c, rest) => basicBody rest (c :: read)
    | none => none
  | c :: rest => if isPlain c then basicBody rest (c :: read) else none
termination_by text.length
decreasing_by
  · have := Text.length_of_escaped? _h
    simp only [List.length_cons]
    omega
  · simp

/-- A string up to its closing apostrophe, without escapes. -/
def literalBody (text : List Char) : Option (String × List Char) :=
  match text.dropWhile fun c => isPlain c && c != '\'' with
  | '\'' :: rest => some (String.ofList (text.takeWhile fun c => isPlain c && c != '\''), rest)
  | _ => none

/-- The text behind a line break that only blanks precede, and all blanks and line breaks after
it. -/
def afterFold? (text : List Char) : Option (List Char) :=
  match text.dropWhile isSpace with
  | '\n' :: rest => some (rest.dropWhile fun c => isSpace c || c == '\n')
  | _ => none

theorem length_dropWhile_le {α : Type} (p : α → Bool) (l : List α) :
    (l.dropWhile p).length ≤ l.length :=
  (List.dropWhile_sublist p).length_le

/-- A joined line end takes nothing but itself from the text. -/
theorem length_of_afterFold? {text rest : List Char} (h : afterFold? text = some rest) :
    rest.length ≤ text.length := by
  unfold afterFold? at h
  split at h
  · rename_i behind e
    cases h
    have outer := length_dropWhile_le isSpace text
    have inner := length_dropWhile_le (fun c => isSpace c || c == '\n') behind
    rw [e, List.length_cons] at outer
    omega
  · cases h

/-- A string of several lines up to its three closing quotes, before which up to two more may stand.
A backslash at the end of a line joins it to the next text. -/
def basicLines (text read : List Char) : Option (String × List Char) :=
  match text with
  | [] => none
  | '"' :: '"' :: '"' :: '"' :: '"' :: rest =>
    some (String.ofList ('"' :: '"' :: read).reverse, rest)
  | '"' :: '"' :: '"' :: '"' :: rest => some (String.ofList ('"' :: read).reverse, rest)
  | '"' :: '"' :: '"' :: rest => some (String.ofList read.reverse, rest)
  | '\\' :: rest =>
    match _h : afterFold? rest with
    | some rest => basicLines rest read
    | none =>
      match _k : Text.escaped? rest with
      | some (c, rest) => basicLines rest (c :: read)
      | none => none
  | c :: rest => if isPlain c || c == '\n' then basicLines rest (c :: read) else none
termination_by text.length
decreasing_by
  · have := length_of_afterFold? _h
    simp only [List.length_cons]
    omega
  · have := Text.length_of_escaped? _k
    simp only [List.length_cons]
    omega
  · simp

/-- A string of several lines up to its three closing apostrophes, before which up to two more may
stand. -/
def literalLines (text read : List Char) : Option (String × List Char) :=
  match text with
  | [] => none
  | '\'' :: '\'' :: '\'' :: '\'' :: '\'' :: rest =>
    some (String.ofList ('\'' :: '\'' :: read).reverse, rest)
  | '\'' :: '\'' :: '\'' :: '\'' :: rest => some (String.ofList ('\'' :: read).reverse, rest)
  | '\'' :: '\'' :: '\'' :: rest => some (String.ofList read.reverse, rest)
  | c :: rest => if isPlain c || c == '\n' then literalLines rest (c :: read) else none

def dropBreak : List Char → List Char
  | '\n' :: rest => rest
  | text => text

def string? : List Char → Option (String × List Char)
  | '"' :: '"' :: '"' :: rest => basicLines (dropBreak rest) []
  | '"' :: rest => basicBody rest []
  | '\'' :: '\'' :: '\'' :: rest => literalLines (dropBreak rest) []
  | '\'' :: rest => literalBody rest
  | _ => none

/-! ### Unquoted words -/

/-- The digits of a number without the underscores between them. -/
def ungrouped? : List Char → Option (List Char)
  | [] => none
  | [c] => if c = '_' then none else some [c]
  | c :: '_' :: rest => if c = '_' then none else (ungrouped? rest).map (c :: ·)
  | c :: rest => if c = '_' then none else (ungrouped? rest).map (c :: ·)

/-- The digits of a decimal number, which has no zero in front. -/
def decimalDigits? (text : List Char) : Option (List Char) :=
  (ungrouped? text).filter fun digits =>
    digits.all Char.isDigit && (digits.length == 1 || digits.head? != some '0')

/-- An integer word: decimal with an optional sign, or in another radix behind its mark. -/
def integer? (word : List Char) : Option Int :=
  match word with
  | '0' :: 'x' :: rest => (ungrouped? rest).bind fun digits => (numeral? 16 digits).map Int.ofNat
  | '0' :: 'o' :: rest => (ungrouped? rest).bind fun digits => (numeral? 8 digits).map Int.ofNat
  | '0' :: 'b' :: rest => (ungrouped? rest).bind fun digits => (numeral? 2 digits).map Int.ofNat
  | _ =>
    let (negative, body) := Extended.splitSign word
    (decimalDigits? body).map fun digits =>
      let value : Int := digitsValue digits
      if negative then -value else value

/-- Whether a character may stand in a run of digits. -/
def isDigitOrMark (c : Char) : Bool := c.isDigit || c == '_'

/-- The fraction that the text behind an integer part starts with, and what follows it. -/
def fraction? : List Char → Option (List Char × List Char)
  | '.' :: rest =>
    ((ungrouped? (rest.takeWhile isDigitOrMark)).filter (·.all Char.isDigit)).map fun digits =>
      (digits, rest.dropWhile isDigitOrMark)
  | text => some ([], text)

def exponent? : List Char → Option Int
  | [] => some 0
  | mark :: rest =>
    let (negative, digits) := Extended.splitSign rest
    if mark = 'e' ∨ mark = 'E' then
      ((ungrouped? digits).filter (·.all Char.isDigit)).map fun digits =>
        let value : Int := digitsValue digits
        if negative then -value else value
    else none

/-- A number with a fraction or an exponent, or the name of a value that is none; a number too large
for the format is refused. -/
def real? (word : List Char) : Option Extended :=
  let (negative, body) := Extended.splitSign word
  if body = "inf".toList then some (.infinite negative)
  else if body = "nan".toList then some .notANumber
  else do
    let whole ← decimalDigits? (body.takeWhile isDigitOrMark)
    let (fraction, rest) ← fraction? (body.dropWhile isDigitOrMark)
    let exponent ← exponent? rest
    let value :=
      Extended.ofDecimal negative (digitsValue (whole ++ fraction)) (exponent - fraction.length)
    if value = .infinite false then none else some value

def fixedDigits? (count : Nat) (text : List Char) : Option Nat :=
  if text.length = count then numeral? 10 text else none

def isDate (text : List Char) : Bool :=
  match fixedDigits? 4 (text.take 4), text[4]?, fixedDigits? 2 ((text.drop 5).take 2), text[7]?,
      fixedDigits? 2 (text.drop 8) with
  | some year, some '-', some month, some '-', some day =>
    (CalendarDay.mk year month day).isValid
  | _, _, _, _, _ => false

def isClock (text : List Char) : Bool :=
  match fixedDigits? 2 (text.take 2), text[2]?, fixedDigits? 2 (text.drop 3) with
  | some hour, some ':', some minute => hour < 24 && minute < 60
  | _, _, _ => false

/-- Whether a text is a time of day, to whole seconds or any fraction of them. -/
def isTime (text : List Char) : Bool :=
  isClock (text.take 5) && text[5]? == some ':' &&
    (fixedDigits? 2 ((text.drop 6).take 2)).any (· ≤ 60) &&
    match text.drop 8 with
    | [] => true
    | '.' :: digits => !digits.isEmpty && digits.all Char.isDigit
    | _ => false

/-- Whether a text is a time of day with or without an offset. -/
def isTimeWithOffset (text : List Char) : Bool :=
  let time := text.takeWhile fun c => c.isDigit || c == ':' || c == '.'
  isTime time &&
    match text.drop time.length with
    | [] => true
    | ['Z'] | ['z'] => true
    | sign :: clock => (sign == '+' || sign == '-') && isClock clock

def isMoment (word : List Char) : Bool :=
  isDate word || isTime word ||
    (isDate (word.take 10) && (word[10]?.any fun c => c == 'T' || c == 't' || c == ' ') &&
      isTimeWithOffset (word.drop 11))

/-- The value of an unquoted word; a moment is kept as a table, since no setting has that type. -/
def word? (word : List Char) : Option Value :=
  if word = "true".toList then some (.flag true)
  else if word = "false".toList then some (.flag false)
  else if isMoment word then some (.table [("$moment", .text (String.ofList word))])
  else
    match integer? word with
    | some value =>
      if -0x8000000000000000 ≤ value ∧ value < 0x8000000000000000 then
        some (.signed value) else none
    | none => (real? word).map .real

/-- Whether a character may stand in an unquoted word. -/
def isWordChar (c : Char) : Bool :=
  c.isAlphanum || c == '_' || c == '+' || c == '-' || c == '.' || c == ':'

/-- An unquoted word at the head of a text; between a date and a time may stand one space. -/
def splitWord (text : List Char) : List Char × List Char :=
  let word := text.takeWhile isWordChar
  match text.dropWhile isWordChar with
  | ' ' :: rest =>
    if isDate word && rest.head?.any Char.isDigit then
      (word ++ ' ' :: rest.takeWhile isWordChar, rest.dropWhile isWordChar)
    else (word, ' ' :: rest)
  | rest => (word, rest)

end CephExport.Toml
