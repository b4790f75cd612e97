import CephExport.Settings.Value
import CephExport.Yaml.Node

/-!
The values that nodes stand for. An unquoted scalar without a tag may stand for something other than
its text, a standard tag decides what a scalar stands for, and a tag of one's own makes a table of
one member.
-/

set_option autoImplicit false
set_option relaxedAutoImplicit false

namespace CephExport.Yaml

open CephExport.Settings (Value)

/-! ### Scalars -/

/-- Whether a text has decimal digits alone behind a sign, but a zero in front of others, which
makes it no number. -/
def hasLeadingZero (text : List Char) : Bool :=
  let (_, body) := Extended.splitSign text
  decide (1 < body.length) && body.head? == some '0' && body.all Char.isDigit

def marked? : List Char → Option Nat
  | '0' :: 'x' :: rest => numeral? 16 rest
  | '0' :: 'o' :: rest => numeral? 8 rest
  | '0' :: 'b' :: rest => numeral? 2 rest
  | _ => none

def unsigned? (limit : Nat) (text : List Char) : Option Nat :=
  let body := dropPlus text
  ((marked? body).filter (decide <| · < limit)).orElse fun _ =>
    if hasLeadingZero text then none else (numeral? 10 body).filter (decide <| · < limit)

/-- A number with a minus sign, no lower than the negated limit. -/
def negative? (limit : Nat) (text : List Char) : Option Int :=
  match text with
  | '-' :: body =>
    (((marked? body).filter (decide <| · ≤ limit)).orElse fun _ =>
      if hasLeadingZero text then none else (numeral? 10 body).filter (decide <| · ≤ limit)).map
        fun value => -(value : Int)
  | _ => none

/-- The number with a point or an exponent that a text writes, or the name of a value that has no
digits. -/
def real? (text : List Char) : Option Extended :=
  let body := dropPlus text
  if text ≠ body ∧ (body.head? = some '+' ∨ body.head? = some '-') then none
  else if [".inf", ".Inf", ".INF"].contains (String.ofList body) then some (.infinite false)
  else if ["-.inf", "-.Inf", "-.INF"].contains (String.ofList text) then some (.infinite true)
  else if [".nan", ".NaN", ".NAN"].contains (String.ofList text) then some .notANumber
  else (Extended.ofText? body).filter (·.isFinite)

def namesNull (text : List Char) : Bool :=
  ["null", "Null", "NULL", "~"].contains (String.ofList text)

def flag? (text : List Char) : Option Bool :=
  if ["true", "True", "TRUE"].contains (String.ofList text) then some true
  else if ["false", "False", "FALSE"].contains (String.ofList text) then some false
  else none

/-- The integer that a text writes, of the narrowest kind that holds it. -/
def integer? (text : List Char) : Option Value :=
  match unsigned? 0x10000000000000000 text with
  | some value => some (.unsigned value)
  | none =>
    match negative? 0x8000000000000000 text with
    | some value => some (.signed value)
    | none =>
      match unsigned? (Nat.pow 2 128) text with
      | some value => some (.wide false value)
      | none => (negative? (Nat.pow 2 127) text).map (.wide true)

/-- The value of an unquoted scalar without a tag. -/
def plainValue (text : List Char) : Value :=
  if text.isEmpty ∨ namesNull text then .unit
  else
    match flag? text with
    | some value => .flag value
    | none =>
      match integer? text with
      | some value => value
      | none =>
        match (if hasLeadingZero text then none else real? text) with
        | some value => .real value
        | none => .text (String.ofList text)

def scalarValue (text : List Char) (plain : Bool) : Value :=
  if plain then plainValue text else .text (String.ofList text)

/-! ### Tags -/

inductive StandardTag
  | flag
  | integer
  | real
  | null
  deriving DecidableEq

namespace StandardTag

def ofText? (tag : TagText) : Option StandardTag :=
  [("tag:yaml.org,2002:bool", flag), ("tag:yaml.org,2002:int", integer),
    ("tag:yaml.org,2002:float", real), ("tag:yaml.org,2002:null", null)].findSome?
        fun (name, standard) =>
      if tag = name.toList.map some then some standard else none

/-- The value of a scalar with a standard tag; it must be one that the tag allows. -/
def value? (tag : StandardTag) (text : List Char) : Option Value :=
  match tag with
  | flag => (flag? text).map .flag
  | integer => integer? text
  | real => (real? text).map .real
  | null => if namesNull text then some .unit else none

end StandardTag

/-- The name of a tag of one's own, which starts with an exclamation mark and whose octets write
characters. The mark belongs to the name if it is alone. -/
def ownName? (tag : TagText) : Option String :=
  match tag.mapM id with
  | some ['!'] => some "!"
  | some ('!' :: name) => some (String.ofList name)
  | _ => none

/-- A value with a tag of its own is a table of one member; other tags of collections say
nothing. -/
def underTag (tag : Option TagText) (value : Value) : Value :=
  match tag.bind ownName? with
  | some name => .table [(name, value)]
  | none => value

/-- The value of a scalar with its tag. -/
def taggedScalar? (text : List Char) (plain : Bool) : Option TagText → Option Value
  | none => some (scalarValue text plain)
  | some tag =>
    match ownName? tag, StandardTag.ofText? tag with
    | some _, _ => some (underTag (some tag) (scalarValue text plain))
    | none, some standard => standard.value? text
    | none, none => some (.text (String.ofList text))

/-! ### Nodes -/

def nestingLimit : Nat := 128

/-- How many references there may be for each mark of a document. -/
def referenceLimit : Nat := 100

/-- A part of finding the values of a document, which may follow a number of references. -/
abbrev Resolving := StateT Nat Option

namespace Document

/-- The node itself, or the one that it refers to. -/
def follow (document : Document) : Node → Resolving Node
  | .reference number => do
    match ← get with
    | 0 => failure
    | left + 1 =>
      set left
      document.find? number
  | node => pure node

/-- The text of a scalar as the key of a member, whatever its tag. -/
def key (document : Document) (node : Node) : Resolving String := do
  match ← document.follow node with
  | .scalar text _ _ => pure (String.ofList text)
  | _ => failure

/-- The value of a node, in which collections may nest to a depth. Keys are scalars, and a later
member replaces an earlier one of its key. -/
def value (document : Document) : Nat → Node → Resolving Value
  | 0, node => do
    match ← document.follow node with
    | .scalar text plain tag => taggedScalar? text plain tag
    | _ => failure
  | depth + 1, node => do
    match ← document.follow node with
    | .scalar text plain tag => taggedScalar? text plain tag
    | .sequence items tag => do
      let values ← items.mapM (document.value depth)
      pure (underTag tag (.list values))
    | .mapping members tag => do
      let read ← members.foldlM (fun read (key, item) => do
        let key ← document.key key
        pure (insertMember key (← document.value depth item) read)) []
      pure (underTag tag (.table read))
    | .reference _ => failure

/-- The table that a document stands for, whatever the tag of its node: nothing at all is an empty
one. -/
def table? (document : Document) : Option Value :=
  match document.root with
  | .scalar [] true _ => some (.table [])
  | .mapping members _ =>
    ((document.value nestingLimit (.mapping members none)).run
      (referenceLimit * document.root.size)).map Prod.fst
  | _ => none

end Document

end CephExport.Yaml
