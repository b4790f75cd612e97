import CephExport.Settings.Value
import CephExport.Text.Blank
import CephExport.Text.Bytes
import CephExport.Text.Escape

/-!
Settings from environment variables. The name of a variable gives the path of a setting, and its
text is read as a loosely written value: what does not read as anything else is text.
-/

set_option autoImplicit false
set_option relaxedAutoImplicit false

namespace CephExport.Settings.Variable

/-- The parts of a name, which points and pairs of underscores separate. -/
def nameParts (part : List Char) : List Char → List String
  | '_' :: '_' :: rest => String.ofList part.reverse :: nameParts [] rest
  | '.' :: rest => String.ofList part.reverse :: nameParts [] rest
  | c :: rest => nameParts (c :: part) rest
  | [] => [String.ofList part.reverse]

/-- The start of the names of variables that hold settings, whatever its case. -/
def nameStart : List Char := "nfs_operator__".toList

def path? (name : String) : Option (List String) :=
  let name := (Text.trim name.toList).map Char.toLower
  if nameStart.isPrefixOf name then
    let parts := nameParts [] (Text.trim (name.drop nameStart.length))
    if parts.any (·.isEmpty) then none else some parts
  else none

def isBlank (c : Char) : Bool :=
  c == ' ' || c == '\t' || c == '\n' || c == '\r' || c == Char.ofNat 12

def isSeparator (c : Char) : Bool := c == ',' || c == '\x7b' || c == '\x7d' || c == '[' || c == ']'

def isKeyChar (c : Char) : Bool := c.isAlphanum || c == '_' || c == '-'

inductive Fault
  | malformed
  /-- The text in front of an escape is measured by its characters but cut by its bytes, and the cut
  falls within a character. -/
  | splitCharacter
  deriving DecidableEq

/-- The text up to a closing quote, and what stands behind that. A backslash takes a character with
it. -/
def quotedText? (read : List Char) : List Char → Option (List Char × List Char)
  | '"' :: rest => some (read.reverse, rest)
  | '\\' :: c :: rest => quotedText? (c :: '\\' :: read) rest
  | c :: rest => if c = '\\' then none else quotedText? (c :: read) rest
  | [] => none

def isQuotable (c : Char) : Bool := c == '\t' || (32 ≤ c.toNat && c.toNat != 127)

/-- The text from a position on with its escapes undone, behind the text `read` last to first.
Before the first escape nothing is read; it takes as many bytes of the whole text as characters
stand before it. -/
def unescapedFrom (whole : List Char) (position : Nat) (read : Option (List Char))
    (text : List Char) :
    Except Fault (List Char) :=
  match text with
  | [] => .ok ((read.map List.reverse).getD whole)
  | '\\' :: rest =>
    match Text.takeBytes? position whole with
    | none => .error .splitCharacter
    | some before =>
      match _h : Text.escaped? rest with
      | none => .error .malformed
      | some (c, behind) =>
        unescapedFrom whole (position + 1 + (rest.length - behind.length))
          (some (c :: read.getD before.reverse)) behind
  | c :: rest =>
    if isQuotable c then unescapedFrom whole (position + 1) (read.map (c :: ·)) rest
    else .error .malformed
termination_by text.length
decreasing_by
  · have := Text.length_of_escaped? _h
    simp only [List.length_cons]
    omega
  · simp

/-- The text behind an opening quote up to the closing one, and what stands behind that. -/
def quoted (text : List Char) : Except Fault (String × List Char) :=
  match quotedText? [] text with
  | none => .error .malformed
  | some (body, rest) => (unescapedFrom body 0 none body).map fun chars =>
    (String.ofList chars, rest)

def bareValue (raw : List Char) : Value :=
  let text := Text.trim raw
  match (if text.contains '.' then Extended.ofText? text else none) with
  | some value => .real value
  | none =>
    match unsignedWord? text with
    | some value => .unsigned value
    | none =>
      match signedWord? text with
      | some value => .signed value
      | none => .text (String.ofList text)

mutual

/-- A value at the head of a text, and the text behind it and the blanks that follow. -/
def value (fuel : Nat) (text : List Char) : Except Fault (Value × List Char) :=
  match fuel with
  | 0 => .error .malformed
  | fuel + 1 =>
    let text := text.dropWhile isBlank
    let read :=
      if "true".toList.isPrefixOf text then .ok (Value.flag true, text.drop 4)
      else if "false".toList.isPrefixOf text then .ok (.flag false, text.drop 5)
      else
        match text with
        | '\x7b' :: rest => tableBody fuel rest []
        | '[' :: rest => listBody fuel rest []
        | '"' :: rest => (quoted rest).map fun (text, rest) => (.text text, rest)
        | '\'' :: c :: '\'' :: rest => .ok (.text (String.singleton c), rest)
        | '\'' :: _ => .error .malformed
        | _ => .ok (bareValue (text.takeWhile (! isSeparator ·)), text.dropWhile (! isSeparator ·))
    read.map fun (value, rest) => (value, rest.dropWhile isBlank)

def listBody (fuel : Nat) (text : List Char) (read : List Value) :
    Except Fault (Value × List Char) :=
  match fuel with
  | 0 => .error .malformed
  | fuel + 1 =>
    match text with
    | ']' :: rest => .ok (.list read.reverse, rest)
    | _ =>
      match value fuel text with
      | .error fault => .error fault
      | .ok (item, ',' :: rest) => listBody fuel rest (item :: read)
      | .ok (item, ']' :: rest) => .ok (.list (item :: read).reverse, rest)
      | .ok _ => .error .malformed

def tableBody (fuel : Nat) (text : List Char) (read : List (String × Value)) :
    Except Fault (Value × List Char) :=
  match fuel with
  | 0 => .error .malformed
  | fuel + 1 =>
    match text with
    | '\x7d' :: rest => .ok (.table read, rest)
    | _ =>
      let text := text.dropWhile isBlank
      let key :=
        match text with
        | '"' :: rest => quoted rest
        | _ =>
          let key := text.takeWhile isKeyChar
          if key.isEmpty then .error .malformed
          else .ok (String.ofList key, text.dropWhile isKeyChar)
      match key with
      | .error fault => .error fault
      | .ok (key, rest) =>
        match rest.dropWhile isBlank with
        | '=' :: rest =>
          match value fuel rest with
          | .error fault => .error fault
          | .ok (item, ',' :: rest) => tableBody fuel rest (insertMember key item read)
          | .ok (item, '\x7d' :: rest) => .ok (.table (insertMember key item read), rest)
          | .ok _ => .error .malformed
        | _ => .error .malformed

end

/-- The value of the text of a variable; text that is not one whole value is taken as it is. None
where a cut falls within a character. -/
def read? (text : String) : Option Value :=
  match value (2 * text.length + 2) text.toList with
  | .ok (value, []) => some value
  | .ok _ => some (.text text)
  | .error .malformed => some (.text text)
  | .error .splitCharacter => none

/-- The layer of settings in an environment, a later variable over an earlier one. -/
def layer? (environment : List (String × String)) : Option Value :=
  environment.foldlM (fun layer (name, text) =>
    match path? name with
    | some path => (read? text).map fun value => layer.overlay (.atPath path value)
    | none => some layer) (.table [])

end CephExport.Settings.Variable
