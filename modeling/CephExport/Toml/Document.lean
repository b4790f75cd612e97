import CephExport.Toml.Scalar
import CephExport.Toml.Table

/-!
Reading TOML documents: lines of keys with values, and the headers of the tables that they belong
to.
-/

set_option autoImplicit false
set_option relaxedAutoImplicit false

namespace CephExport.Toml

open CephExport.Settings (Value)

/-- Whether a character may stand in an unquoted key. -/
def isKeyChar (c : Char) : Bool := c.isAlphanum || c == '_' || c == '-'

def keyPart? (text : List Char) : Option (String × List Char) :=
  match text with
  | '"' :: rest => basicBody rest []
  | '\'' :: rest => literalBody rest
  | _ =>
    let part := text.takeWhile isKeyChar
    if part.isEmpty then none else some (String.ofList part, text.dropWhile isKeyChar)

/-- How many parts a key may have, and how deep arrays and inline tables may nest. -/
def depthLimit : Nat := 79

/-- The parts of a key at the head of a text, no more than a number of them, and the text behind it
and its blanks. -/
def keyParts? (most : Nat) (text : List Char) : Option (List String × List Char) :=
  match most with
  | 0 => none
  | most + 1 =>
    match keyPart? (text.dropWhile isSpace) with
    | none => none
    | some (part, rest) =>
      match rest.dropWhile isSpace with
      | '.' :: rest => (keyParts? most rest).map fun (parts, rest) => (part :: parts, rest)
      | rest => some ([part], rest)

/-- The parts of a key at the head of a text, and the text behind it and its blanks. -/
def key? (text : List Char) : Option (List String × List Char) := keyParts? depthLimit text

def dropComment : List Char → List Char
  | '#' :: rest => rest.dropWhile isPlain
  | text => text

/-- The text behind blanks, comments and line breaks. -/
def dropFiller (fuel : Nat) (text : List Char) : List Char :=
  match fuel with
  | 0 => text
  | fuel + 1 =>
    match dropComment (text.dropWhile isSpace) with
    | '\n' :: rest => dropFiller fuel rest
    | rest => rest

/-- The text behind the end of a line that holds only blanks and a comment. -/
def afterLine? (text : List Char) : Option (List Char) :=
  match dropComment (text.dropWhile isSpace) with
  | [] => some []
  | '\n' :: rest => some rest
  | _ => none

mutual

/-- A value at the head of a text without leading blanks; arrays and inline tables nest no deeper
than `depth`. -/
def value? (fuel depth : Nat) (text : List Char) : Option (Value × List Char) :=
  match fuel with
  | 0 => none
  | fuel + 1 =>
    match text with
    | '[' :: rest =>
      match depth with
      | 0 => none
      | depth + 1 => items? fuel depth rest []
    | '\x7b' :: rest =>
      match depth, rest.dropWhile isSpace with
      | 0, _ => none
      | _ + 1, '\x7d' :: rest => some (.table [], rest)
      | depth + 1, rest => members? fuel depth rest []
    | _ =>
      match string? text with
      | some (text, rest) => some (.text text, rest)
      | none =>
        let (word, rest) := splitWord text
        (word? word).map fun value => (value, rest)

def items? (fuel depth : Nat) (text : List Char) (read : List Value) : Option (Value × List Char) :=
  match fuel with
  | 0 => none
  | fuel + 1 =>
    match dropFiller text.length text with
    | ']' :: rest => some (.list read.reverse, rest)
    | text =>
      match value? fuel depth text with
      | none => none
      | some (item, rest) =>
        match dropFiller rest.length rest with
        | ',' :: rest => items? fuel depth rest (item :: read)
        | ']' :: rest => some (.list (item :: read).reverse, rest)
        | _ => none

def members? (fuel depth : Nat) (text : List Char) (read : Body) : Option (Value × List Char) :=
  match fuel with
  | 0 => none
  | fuel + 1 =>
    match key? text with
    | some (key, '=' :: rest) =>
      match value? fuel depth (rest.dropWhile isSpace) with
      | none => none
      | some (item, rest) =>
        match read.assign item key, rest.dropWhile isSpace with
        | some read, ',' :: rest => members? fuel depth rest read
        | some read, '\x7d' :: rest => some (.table (bodyValues read), rest)
        | _, _ => none
    | _ => none

end

/-- Open the table that a header names, by an operation on the last of its keys. -/
def openHeader (root : Body) (path : List String) (openLast : String → Body → Option Body) :
    Option Body :=
  match path.getLast? with
  | some key => root.within (openLast key) path.dropLast
  | none => none

/-- Read the lines of a document into its tables. `current` is the path of the last header. -/
def lines? (fuel : Nat) (text : List Char) (root : Body) (current : List String) : Option Body :=
  match fuel with
  | 0 => none
  | fuel + 1 =>
    match dropFiller text.length text with
    | [] => some root
    | '[' :: '[' :: rest =>
      match key? rest with
      | some (path, ']' :: ']' :: rest) =>
        match openHeader root path Body.openElement, afterLine? rest with
        | some root, some rest => lines? fuel rest root path
        | _, _ => none
      | _ => none
    | '[' :: rest =>
      match key? rest with
      | some (path, ']' :: rest) =>
        match openHeader root path Body.openTable, afterLine? rest with
        | some root, some rest => lines? fuel rest root path
        | _, _ => none
      | _ => none
    | text =>
      match key? text with
      | some (key, '=' :: rest) =>
        match value? (2 * rest.length + 2) depthLimit (rest.dropWhile isSpace) with
        | none => none
        | some (value, rest) =>
          match root.within (fun body => body.assign value key) current, afterLine? rest with
          | some root, some rest => lines? fuel rest root current
          | _, _ => none
      | _ => none

/-- A text with line feeds in place of pairs of a carriage return and a line feed. -/
def joinLineEnds : List Char → List Char
  | '\r' :: '\n' :: rest => '\n' :: joinLineEnds rest
  | c :: rest => c :: joinLineEnds rest
  | [] => []

def read? (text : String) : Option Value :=
  let chars := joinLineEnds text.toList
  let chars := if chars.head? == some (Char.ofNat 0xFEFF) then chars.drop 1 else chars
  (lines? (chars.length + 1) chars [] []).map fun body => .table (bodyValues body)

end CephExport.Toml
