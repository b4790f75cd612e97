import CephExport.Settings.Value

/-!
The tables of a TOML document while it is read. How a table came about decides what may still be
added to it: a header may open a table once, and keys with points reach only tables that such keys
made.
-/

set_option autoImplicit false
set_option relaxedAutoImplicit false

namespace CephExport.Toml

open CephExport.Settings (Value)

inductive Origin
  | header
  | implied
  | dotted
  deriving DecidableEq

inductive Node
  | leaf (value : Value)
  | table (origin : Origin) (body : List (String × Node))
  /-- An array of tables, of which only the latest can still grow. -/
  | tables (latest : List (String × Node)) (earlier : List (List (String × Node)))

abbrev Body := List (String × Node)

mutual

def Node.toValue : Node → Value
  | .leaf value => value
  | .table _ body => .table (bodyValues body)
  | .tables latest earlier => .list (earlierValues earlier [.table (bodyValues latest)])

def bodyValues : Body → List (String × Value)
  | [] => []
  | (key, node) :: rest => (key, node.toValue) :: bodyValues rest

/-- The values of the earlier tables of an array, the newest of which comes first, put before those
that follow them. -/
def earlierValues : List Body → List Value → List Value
  | [], later => later
  | body :: rest, later => earlierValues rest (.table (bodyValues body) :: later)

end

namespace Body

/-- Change the table that a path of header keys leads to, making those on the way that are
missing. -/
def within (change : Body → Option Body) (body : Body) : List String → Option Body
  | [] => change body
  | key :: rest =>
    match body.lookup key with
    | none => (within change [] rest).map fun inner => insertMember key (.table .implied inner) body
    | some (.leaf _) => none
    | some (.table origin inner) =>
      (within change inner rest).map fun inner => insertMember key (.table origin inner) body
    | some (.tables latest earlier) =>
      (within change latest rest).map fun latest => insertMember key (.tables latest earlier) body

def openTable (key : String) (body : Body) : Option Body :=
  match body.lookup key with
  | none => some (insertMember key (.table .header []) body)
  | some (.table .implied inner) => some (insertMember key (.table .header inner) body)
  | _ => none

def openElement (key : String) (body : Body) : Option Body :=
  match body.lookup key with
  | none => some (insertMember key (.tables [] []) body)
  | some (.tables latest earlier) => some (insertMember key (.tables [] (latest :: earlier)) body)
  | _ => none

/-- Set the value of a key with points, none of whose tables may have been made in another way. -/
def assign (value : Value) (body : Body) : List String → Option Body
  | [] => none
  | [key] => if (body.lookup key).isSome then none else some (insertMember key (.leaf value) body)
  | key :: rest =>
    match body.lookup key with
    | none => (assign value [] rest).map fun inner => insertMember key (.table .dotted inner) body
    | some (.table .dotted inner) =>
      (assign value inner rest).map fun inner => insertMember key (.table .dotted inner) body
    | some (.table .implied inner) =>
      if rest.length = 1 then none
      else (assign value inner rest).map fun inner => insertMember key (.table .implied inner) body
    | some (.tables latest earlier) =>
      if rest.length = 1 then none
      else (assign value latest rest).map fun latest =>
        insertMember key (.tables latest earlier) body
    | _ => none

end Body

end CephExport.Toml
