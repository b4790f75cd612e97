import CephExport.Logging.FieldValue
import CephExport.Logging.Level
import CephExport.Text.Bytes

/-!
The directives of a filter, each of which sets the verbosity of the events of some targets or within
some spans: how they are read, in which order they stand, and their texts.
-/

set_option autoImplicit false
set_option relaxedAutoImplicit false

namespace CephExport.Logging

/-- A field that a directive asks for, and the value that it must have. -/
structure FieldMatch where
  name : String
  value : Option FieldValue
  deriving DecidableEq

/-- A directive: which events it is about, and how verbose the log of them is. -/
structure Directive where
  target : Option String := none
  span : Option String := none
  field : Option FieldMatch := none
  verbosity : Verbosity := .upTo .trace
  deriving DecidableEq

inductive FilterFault
  | malformed
  /-- A part of the text would be cut out from within a character. -/
  | splitCharacter
  deriving DecidableEq

/-! ### Reading -/

/-- The verbosity that a text names, in any case, or by its number. -/
def verbosity? (text : List Char) : Option Verbosity :=
  match unsignedNumeral? text with
  | some number => Verbosity.all[number]?
  | none => Verbosity.all.find? fun verbosity => verbosity.name.toList == text.map Char.toLower

/-- The field that a text asks for: a name, or a name and a value. What follows a second equals sign
is dropped. -/
def fieldMatch (text : List Char) : Except FilterFault FieldMatch :=
  let name := String.ofList (text.takeWhile (· != '='))
  match text.dropWhile (· != '=') with
  | [] => .ok ⟨name, none⟩
  | _ :: rest =>
    match FieldValue.parse? (rest.takeWhile (· != '=')) with
    | some value => .ok ⟨name, some value⟩
    | none => .error .malformed

/-- A directive that is being read. The marks between its parts are looked for without the blanks at
both ends of the text, but the parts are cut out of the text with its blanks, at the same numbers of
bytes. -/
structure Draft where
  text : List Char
  position : Nat := 0
  /-- What has not been gone through, without the blanks at the ends. -/
  rest : List Char
  directive : Directive := {}

namespace Draft

def textFrom (draft : Draft) (start : Nat) : Except FilterFault (List Char) :=
  match Text.dropBytes? start draft.text with
  | some part => .ok part
  | none => .error .splitCharacter

/-- The part of the whole text from the place reached up to the first of some marks, and the draft
at that mark. Where there is no mark the whole rest is gone through. -/
def part (draft : Draft) (isMark : Char → Bool) : Except FilterFault (List Char × Draft) :=
  let stop := draft.position + Text.byteCount (draft.rest.takeWhile (! isMark ·))
  match (Text.takeBytes? stop draft.text).bind (Text.dropBytes? draft.position) with
  | some part =>
    .ok (part, { draft with position := stop, rest := draft.rest.dropWhile (! isMark ·) })
  | none => .error .splitCharacter

def past (draft : Draft) (rest : List Char) (directive : Directive) : Draft :=
  { draft with position := draft.position + 1, rest, directive }

/-- The directive whose verbosity is written from here on; where nothing is written it is the
highest. -/
def verbosity (draft : Draft) : Except FilterFault Directive := do
  match ← draft.textFrom draft.position with
  | [] => .ok draft.directive
  | written =>
    match verbosity? written with
    | some verbosity => .ok { draft.directive with verbosity }
    | none => .error .malformed

/-- The directive behind its span: nothing follows, or an equals sign and a verbosity. -/
def behindSpan (draft : Draft) : Except FilterFault Directive :=
  match draft.rest with
  | [] => .ok draft.directive
  | '=' :: rest => (draft.past rest draft.directive).verbosity
  | _ => .error .malformed

/-- The directive from its field on, of which there must be something. -/
def field (draft : Draft) : Except FilterFault Directive :=
  if draft.rest.contains '\x7d' then do
    let (written, draft) ← draft.part (· == '\x7d')
    if written.isEmpty then .error .malformed
    else
      let field ← fieldMatch written
      match draft.rest with
      | _ :: ']' :: rest =>
        behindSpan { draft with
          position :=
            draft.position + 2, rest, directive := { draft.directive with field := some field } }
      | _ => .error .malformed
  else .error .malformed

def span (draft : Draft) : Except FilterFault Directive :=
  let ends (c : Char) : Bool := c == ']' || c == '\x7b'
  if draft.rest.any ends then do
    let (name, draft) ← draft.part ends
    let named := { draft.directive with span := some (String.ofList name) }
    match draft.rest with
    | ']' :: rest => behindSpan (draft.past rest named)
    | _ => (draft.past (draft.rest.drop 1) (if name.isEmpty then draft.directive else named)).field
  else .error .malformed

end Draft

/-- Whether a directive may start with a character. -/
def mayStart (c : Char) : Bool := Text.isLetterOrNumber c || c == '-' || c == ':' || c == '_'

def Directive.parse (source : String) : Except FilterFault Directive :=
  let text := source.toList
  let draft : Draft := { text, rest := Text.trim text }
  match draft.rest with
  | [] => .error .malformed
  | '[' :: rest => (draft.past rest {}).span
  | c :: _ =>
    let ends (c : Char) : Bool := c == '=' || c == '['
    if !mayStart c then .error .malformed
    else if draft.rest.any ends then do
      let (target, draft) ← draft.part ends
      let directive : Directive := { target := some (String.ofList target) }
      match draft.rest with
      | '=' :: rest => (draft.past rest directive).verbosity
      | _ => (draft.past (draft.rest.drop 1) directive).span
    else
      match verbosity? text with
      | some verbosity => .ok { verbosity }
      | none => .ok { target := some source }

/-! ### Order -/

/-- The order of optional values, none coming first. -/
def compareOption {α : Type} (cmp : α → α → Ordering) : Option α → Option α → Ordering
  | none, none => .eq
  | none, some _ => .lt
  | some _, none => .gt
  | some a, some b => cmp a b

/-- The order of fields: one that asks for a value is more specific. -/
def FieldMatch.cmp (a b : FieldMatch) : Ordering :=
  (compare a.value.isSome b.value.isSome).then
    ((compare a.name b.name).then (compareOption FieldValue.cmp a.value b.value))

namespace Directive

/-- The order of directives by how specific they are: by the length of the target, by whether there
are a span and a field, and else by the texts. -/
def cmp (a b : Directive) : Ordering :=
  (compareOption compare (a.target.map (·.utf8ByteSize)) (b.target.map (·.utf8ByteSize))).then
    ((compare a.span.isSome b.span.isSome).then
      ((compare a.field.isSome b.field.isSome).then
        ((compareOption compare a.target b.target).then
          ((compareOption compare a.span b.span).then
            (compareOption FieldMatch.cmp a.field b.field)))))

/-- Put a directive into a list in order, the most specific first; it replaces one about the same
events. -/
def insert (directive : Directive) : List Directive → List Directive
  | [] => [directive]
  | first :: rest =>
    match directive.cmp first with
    | .gt => directive :: first :: rest
    | .eq => directive :: rest
    | .lt => first :: insert directive rest

/-- A list of directives in order, later ones replacing earlier ones about the same events. -/
def ordered (directives : List Directive) : List Directive :=
  directives.foldl (fun sorted directive => insert directive sorted) []

/-! ### Writing -/

def isSpanning (d : Directive) : Bool := d.span.isSome || d.field.isSome

def isConstant (d : Directive) : Bool := d.span.isNone && d.field.all (·.value.isNone)

def text (d : Directive) : String :=
  let field := match d.field with
    | none => ""
    | some field => "\x7b" ++ field.name ++ ((field.value.map ("=" ++ ·.text)).getD "") ++ "\x7d"
  let about :=
    d.target.getD "" ++ if d.isSpanning then "[" ++ d.span.getD "" ++ field ++ "]" else ""
  (if d.target.isSome || d.isSpanning then about ++ "=" else "") ++ d.verbosity.name

end Directive

end CephExport.Logging
