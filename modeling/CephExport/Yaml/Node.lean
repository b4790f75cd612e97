import CephExport.Yaml.Tag

/-!
The nodes of a YAML document. A node may have a name, and stand by its name for itself elsewhere;
what a name stands for is known only once the whole document has been read.
-/

set_option autoImplicit false
set_option relaxedAutoImplicit false

namespace CephExport.Yaml

inductive Node
  /-- A scalar, and whether it is written without quotes. -/
  | scalar (text : List Char) (plain : Bool) (tag : Option TagText)
  | sequence (items : List Node) (tag : Option TagText)
  | mapping (members : List (Node × Node)) (tag : Option TagText)
  | reference (number : Nat)

instance : Inhabited Node := ⟨.scalar [] true none⟩

def Node.empty : Node := .scalar [] true none

/-- The number of marks that a node takes: one for a scalar or a reference, and two around the marks
of the nodes in a collection. -/
def Node.size : Node → Nat
  | .scalar _ _ _ | .reference _ => 1
  | .sequence items _ => itemsSize items + 2
  | .mapping members _ => membersSize members + 2
where
  itemsSize : List Node → Nat
    | [] => 0
    | item :: items => item.size + itemsSize items
  membersSize : List (Node × Node) → Nat
    | [] => 0
    | (key, item) :: members => key.size + item.size + membersSize members

/-- A document: its node, and the named ones with their numbers in the order in which they start. A
later one of a number takes the place of an earlier one. -/
structure Document where
  root : Node
  named : List (Nat × Node)

def Document.find? (document : Document) (number : Nat) : Option Node :=
  document.named.reverse.lookup number

end CephExport.Yaml
