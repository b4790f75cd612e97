import CephExport.KeyMap
import CephExport.Number.Double

/-!
JSON values. The members of an object are a list in key order without repeated keys wherever a value
was settled from text or changed by a patch, and every writer of this library lists members so. A
value just read lists its members as they are written, with those that repeat a key.
-/

set_option autoImplicit false
set_option relaxedAutoImplicit false

namespace CephExport

/-- A JSON number: an integer between `-2 ^ 63` and `2 ^ 64 - 1`, or a binary64 number. -/
inductive JsonNumber
  | integer (value : Int)
  | real (value : Double)
  deriving DecidableEq

inductive Json
  | null
  | bool (value : Bool)
  | number (value : JsonNumber)
  | string (value : String)
  | array (items : List Json)
  | object (members : List (String × Json))
  /-- What is written in the right form but stands for nothing, such as a number that is too large.
  It may be passed over, but does not read as a value of any type. -/
  | unreadable

instance : Inhabited Json := ⟨.null⟩

abbrev Members := List (String × Json)

namespace Json

/-- Equality of values, comparing objects member by member in order. -/
def same : Json → Json → Bool
  | .null, .null => true
  | .bool a, .bool b => a == b
  | .number a, .number b => a == b
  | .string a, .string b => a == b
  | .array a, .array b => sameItems a b
  | .object a, .object b => sameMembers a b
  | _, _ => false
where
  sameItems : List Json → List Json → Bool
    | [], [] => true
    | a :: as, b :: bs => same a b && sameItems as bs
    | _, _ => false
  sameMembers : Members → Members → Bool
    | [], [] => true
    | (k, a) :: as, (l, b) :: bs => k == l && same a b && sameMembers as bs
    | _, _ => false

def ofNat (value : Nat) : Json := .number (.integer value)

def ofInt (value : Int) : Json := .number (.integer value)

/-- An object with the given members, put in key order. -/
def ofMembers (members : Members) : Json := .object (sortMembers members)

def isNull : Json → Bool
  | .null => true
  | _ => false

def members? : Json → Option Members
  | .object members => some members
  | _ => none

def items? : Json → Option (List Json)
  | .array items => some items
  | _ => none

def string? : Json → Option String
  | .string value => some value
  | _ => none

def bool? : Json → Option Bool
  | .bool value => some value
  | _ => none

def valuesOf (key : String) (members : Members) : List Json :=
  members.filterMap fun member => if member.1 = key then some member.2 else none

/-- The member of an object under a key; none where it is absent or the value is no object. -/
def member? (key : String) : Json → Option Json
  | .object members => members.lookup key
  | _ => none

/-- The member of an object under a key, null where there is none. -/
def memberOrNull (key : String) (json : Json) : Json := (json.member? key).getD .null

def at? (path : List String) (json : Json) : Option Json :=
  path.foldl (fun found key => found.bind (member? key)) (some json)

/-- Set a member of an object; another value becomes an object with that member alone. -/
def setMember (json : Json) (key : String) (value : Json) : Json :=
  match json with
  | .object members => .object (insertMember key value members)
  | _ => .object [(key, value)]

end Json

end CephExport
