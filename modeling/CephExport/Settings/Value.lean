import CephExport.KeyMap
import CephExport.Number.Extended
import CephExport.Text.Quoted

/-!
The values that a layer of settings may hold, whatever its format, and how one layer is laid over
another: tables are joined key by key, and any other value of the upper layer hides the lower one.
-/

set_option autoImplicit false
set_option relaxedAutoImplicit false

namespace CephExport.Settings

/-- A value in a layer of settings. The formats differ in the integers they write, so an integer
keeps the kind it was read as; the members of a table are in key order. -/
inductive Value
  | unit
  | flag (value : Bool)
  | unsigned (value : Nat)
  | signed (value : Int)
  /-- An integer outside the ranges of 64 bits, read into 128 bits with or without a sign. -/
  | wide (negative : Bool) (value : Int)
  | real (value : Extended)
  | text (value : String)
  | list (items : List Value)
  | table (members : List (String × Value))

namespace Value

instance : Inhabited Value := ⟨.unit⟩

def member? (key : String) : Value → Option Value
  | .table members => members.lookup key
  | _ => none

def atPath (path : List String) (value : Value) : Value :=
  path.foldr (fun key inner => .table [(key, inner)]) value

def overlay (lower : Value) : Value → Value
  | .table upper =>
    match lower with
    | .table members => .table (overlayMembers members upper)
    | _ => .table upper
  | upper => upper
where
  overlayMembers (members : List (String × Value)) : List (String × Value) → List (String × Value)
    | [] => members
    | (key, value) :: rest =>
      let joined := match members.lookup key with
        | some below => overlay below value
        | none => value
      overlayMembers (insertMember key joined members) rest

def described : Value → String
  | .unit => "unit"
  | .flag value => "bool " ++ toString value
  | .unsigned value => "unsigned int `" ++ toString value ++ "`"
  | .signed value => "signed int `" ++ toString value ++ "`"
  | .wide negative value =>
    "integer `" ++ toString value ++ "` as " ++ (if negative then "i128" else "u128")
  | .real value => "float `" ++ value.text ++ "`"
  | .text value => "string " ++ Text.quoted value
  | .list _ => "sequence"
  | .table _ => "map"

def int? : Value → Option Int
  | .unsigned value => some value
  | .signed value => some value
  | _ => none

end Value

end CephExport.Settings
