import CephExport.Json.Basic

/-!
Types with a JSON form, and the rules by which the members of a record are read. A Kubernetes record
is an object whose absent and null members are the same. A configuration record tells them apart,
and may also be written as an array of its members' values in order.
-/

set_option autoImplicit false
set_option relaxedAutoImplicit false

namespace CephExport

/-- A type with a JSON form: how a value is written and which JSON values read as one. -/
class Codec (α : Type) where
  encode : α → Json
  decode? : Json → Option α

export Codec (encode decode?)

instance : Codec Json := ⟨id, some⟩

instance : Codec String := ⟨.string, Json.string?⟩

instance : Codec Bool := ⟨.bool, Json.bool?⟩

def Json.int? : Json → Option Int
  | .number (.integer value) => some value
  | _ => none

/-- The integer that a JSON value is, if it is at least `low` and below `high`. -/
def Json.intWithin? (low high : Int) (json : Json) : Option Int :=
  json.int?.filter fun value => decide (low ≤ value) && decide (value < high)

instance : Codec UInt32 :=
  ⟨fun n => .ofNat n.toNat, fun json => (json.intWithin? 0 0x100000000).map fun v => .ofNat v.toNat⟩

instance : Codec UInt64 :=
  ⟨fun n => .ofNat n.toNat, fun json => (json.intWithin? 0 0x10000000000000000).map fun v =>
    .ofNat v.toNat⟩

instance : Codec Int32 :=
  ⟨fun n => .ofInt n.toInt, fun json =>
    (json.intWithin? (-0x80000000) 0x80000000).map fun v => .ofInt v⟩

instance : Codec Int64 :=
  ⟨fun n => .ofInt n.toInt, fun json =>
    (json.intWithin? (-0x8000000000000000) 0x8000000000000000).map fun v => .ofInt v⟩

/-- An integer also reads as a number with a fraction. -/
instance : Codec Double where
  encode x := .number (.real x)
  decode?
    | .number (.real x) => some x
    | .number (.integer value) => some (.ofInt value)
    | _ => none

/-- The values of the items of an array, if each reads. -/
def decodeItems? {α : Type} [Codec α] : List Json → Option (List α)
  | [] => some []
  | item :: rest =>
    match (decode? item : Option α), decodeItems? rest with
    | some value, some values => some (value :: values)
    | _, _ => none

instance {α : Type} [Codec α] : Codec (List α) where
  encode values := .array (values.map encode)
  decode?
    | .array items => decodeItems? items
    | _ => none

/-- The values of the members of an object, if each reads. -/
def decodeMembers? {α : Type} [Codec α] : Members → Option (List (String × α))
  | [] => some []
  | (key, json) :: rest =>
    match (decode? json : Option α), decodeMembers? rest with
    | some value, some values => some ((key, value) :: values)
    | _, _ => none

instance {α : Type} [Codec α] : Codec (KeyMap α) where
  encode map := .object (map.entries.map fun member => (member.1, encode member.2))
  decode?
    | .object members => (decodeMembers? members).map KeyMap.ofList
    | _ => none

/-! ### Writing members -/

/-- A member that is always written. -/
def member {α : Type} [Codec α] (key : String) (value : α) : Members := [(key, encode value)]

def memberSome {α : Type} [Codec α] (key : String) : Option α → Members
  | none => []
  | some value => [(key, encode value)]

/-- A member that is written also where there is no value, then as null. -/
def memberOrNull {α : Type} [Codec α] (key : String) : Option α → Members
  | none => [(key, .null)]
  | some value => [(key, encode value)]

/-! ### Kubernetes records -/

def decodeNullable? {α : Type} [Codec α] (json : Json) : Option (Option α) :=
  if json.isNull then some none else (decode? json : Option α).map some

/-- An optional member: absent and null both mean that there is no value. Of several members under
the key the last one counts, but all must read. -/
def Members.optional? {α : Type} [Codec α] (members : Members) (key : String) : Option (Option α) :=
  (Json.valuesOf key members).foldlM (fun _ json => decodeNullable? json) none

/-- A required member of a Kubernetes record: where it is absent or null its zero value stands. -/
def Members.orZero? {α : Type} [Codec α] (members : Members) (key : String) (zero : α) : Option α :=
  (members.optional? key).map (·.getD zero)

/-! ### Configuration records -/

inductive Record
  | named (members : Members)
  | listed (items : List Json)

namespace Record

/-- A record with members under the given keys: an object in which none of these comes twice, or an
array of at most as many items. -/
def of? (keys : List String) : Json → Option Record
  | .object members =>
    if keys.all fun key => decide ((Json.valuesOf key members).length ≤ 1) then
      some (.named members) else none
  | .array items => if items.length ≤ keys.length then some (.listed items) else none
  | _ => none

def written? (record : Record) (position : Nat) (key : String) : Option Json :=
  match record with
  | .named members => members.lookup key
  | .listed items => items[position]?

def required? {α : Type} [Codec α] (record : Record) (position : Nat) (key : String) : Option α :=
  (record.written? position key).bind decode?

/-- A member with a default that stands only where nothing is written. -/
def withDefault? {α : Type} [Codec α] (record : Record) (position : Nat) (key : String)
    (default : α) :
    Option α :=
  match record.written? position key with
  | none => some default
  | some json => decode? json

/-- A member that may be null or unwritten. -/
def optional? {α : Type} [Codec α] (record : Record) (position : Nat) (key : String) :
    Option (Option α) :=
  match record.written? position key with
  | none => some none
  | some .null => some none
  | some json => (decode? json : Option α).map some

/-- A member that may be null, and in an object also unwritten; an array must go on to it. -/
def nullable? {α : Type} [Codec α] (record : Record) (position : Nat) (key : String) :
    Option (Option α) :=
  match record, record.written? position key with
  | .listed _, none => none
  | _, none => some none
  | _, some .null => some none
  | _, some json => (decode? json : Option α).map some

end Record

end CephExport
