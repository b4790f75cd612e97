import CephExport.Yaml.Node
import CephExport.Yaml.Token

/-!
Reading the nodes of a document from its tokens. A text holds one document, and what is left out in
it is an empty scalar.
-/

set_option autoImplicit false
set_option relaxedAutoImplicit false

namespace CephExport.Yaml.Node

structure Source where
  tokens : List Token
  handles : List (List Char × TagText) := []
  /-- The names of nodes so far, each with the number of the last node of the name. -/
  names : List (List Char × Nat) := []
  /-- The named nodes with their numbers, in the order in which they start. -/
  named : Array (Nat × Node) := #[]

abbrev Reader := StateT Source Option

namespace Reader

def skip (count : Nat) : Reader Unit := modify fun s => { s with tokens := s.tokens.drop count }

def peek : Reader (Option Token) := do return (← get).tokens.head?

def atAny (tokens : List Token) : Reader Bool := do return (← peek).any tokens.contains

/-! ### Properties -/

structure Properties where
  anchor : Option (List Char) := none
  tag : Option Tag := none

/-- The properties of a node, at most one of each kind in either order. -/
def properties : Reader Properties := do
  match (← get).tokens with
  | .anchor name :: .tag tag :: _ => skip 2; pure { anchor := some name, tag := some tag }
  | .tag tag :: .anchor name :: _ => skip 2; pure { anchor := some name, tag := some tag }
  | .anchor name :: _ => skip 1; pure { anchor := some name }
  | .tag tag :: _ => skip 1; pure { tag := some tag }
  | _ => pure {}

/-- The text of a tag, its handle replaced by what that stands for. -/
def tagText (tag : Tag) : Reader TagText := do
  if tag.handle.isEmpty then pure tag.suffix
  else
    match (← get).handles.lookup tag.handle with
    | some meaning => pure (meaning ++ tag.suffix)
    | none => failure

/-- Give a name to a node that starts here, which is filled in once it has been read. The number of
the node is the number of names before it, so that nodes whose names are given anew may share
theirs. -/
def nameNode (name : List Char) : Reader Unit :=
  modify fun s =>
    let number := s.names.length
    { s with
      names := (name, number) :: s.names.filter (·.1 != name)
      named := s.named.push (number, .empty) }

def fillIn (place : Nat) (node : Node) : Reader Unit :=
  modify fun s => { s with named := s.named.modify place fun (number, _) => (number, node) }

/-! ### Nodes -/

mutual

/-- A node. Collections outside brackets are read where `block` says so, and a sequence without a
column of its own where `level` does. -/
def node (fuel : Nat) (block level : Bool) : Reader Node :=
  match fuel with
  | 0 => failure
  | fuel + 1 => do
    match ← peek with
    | some (.reference name) =>
      skip 1
      match (← get).names.lookup name with
      | some number => pure (.reference number)
      | none => failure
    | _ =>
      let properties ← properties
      let tag ← properties.tag.mapM tagText
      let place := (← get).named.size
      if let some name := properties.anchor then nameNode name
      let node ← content fuel block level (properties.anchor.isSome || tag.isSome) tag
      if properties.anchor.isSome then fillIn place node
      pure node

/-- The content of a node, which may be left out where there are properties. -/
def content (fuel : Nat) (block level optional : Bool) (tag : Option TagText) : Reader Node :=
  match fuel with
  | 0 => failure
  | fuel + 1 => do
    match ← peek with
    | some (.scalar text plain) =>
      skip 1
      pure (.scalar text plain tag)
    | some .bracketOpen =>
      skip 1
      return .sequence (← flowItems fuel []) tag
    | some .braceOpen =>
      skip 1
      return .mapping (← flowMembers fuel []) tag
    | token =>
      if token = some .dash ∧ level then return .sequence (← levelItems fuel []) tag
      else if token = some .sequenceStart ∧ block then
        skip 1
        return .sequence (← items fuel []) tag
      else if token = some .mappingStart ∧ block then
        skip 1
        return .mapping (← members fuel []) tag
      else if optional then pure (.scalar [] true tag)
      else failure

/-- A node, or what is left out in front of some tokens. -/
def nodeBefore (fuel : Nat) (block level : Bool) (ends : List Token) : Reader Node :=
  match fuel with
  | 0 => failure
  | fuel + 1 => do if ← atAny ends then pure .empty else node fuel block level

def items (fuel : Nat) (read : List Node) : Reader (List Node) :=
  match fuel with
  | 0 => failure
  | fuel + 1 => do
    match ← peek with
    | some .dash =>
      skip 1
      items fuel ((← nodeBefore fuel true false [.dash, .blockEnd]) :: read)
    | some .blockEnd =>
      skip 1
      pure read.reverse
    | _ => failure

def levelItems (fuel : Nat) (read : List Node) : Reader (List Node) :=
  match fuel with
  | 0 => failure
  | fuel + 1 => do
    match ← peek with
    | some .dash =>
      skip 1
      levelItems fuel ((← nodeBefore fuel true false [.dash, .key, .value, .blockEnd]) :: read)
    | _ => pure read.reverse

/-- The value behind a key, which may be left out. -/
def valueBefore (fuel : Nat) (block : Bool) (ends : List Token) : Reader Node :=
  match fuel with
  | 0 => failure
  | fuel + 1 => do
    match ← peek with
    | some .value =>
      skip 1
      nodeBefore fuel block block ends
    | _ => pure .empty

def members (fuel : Nat) (read : List (Node × Node)) : Reader (List (Node × Node)) :=
  match fuel with
  | 0 => failure
  | fuel + 1 => do
    match ← peek with
    | some .key =>
      skip 1
      let key ← nodeBefore fuel true true [.key, .value, .blockEnd]
      members fuel ((key, ← valueBefore fuel true [.key, .value, .blockEnd]) :: read)
    | some .blockEnd =>
      skip 1
      pure read.reverse
    | _ => failure

def flowItems (fuel : Nat) (read : List Node) : Reader (List Node) :=
  match fuel with
  | 0 => failure
  | fuel + 1 => do
    if !read.isEmpty && !(← atAny [.bracketClose]) then
      if ← atAny [.comma] then skip 1 else failure
    match ← peek with
    | some .bracketClose =>
      skip 1
      pure read.reverse
    | some .key =>
      skip 1
      flowItems fuel ((← flowPair fuel) :: read)
    | _ => flowItems fuel ((← node fuel false false) :: read)

/-- A member that stands alone as an item in brackets. A key that is left out takes the token behind
it with it. -/
def flowPair (fuel : Nat) : Reader Node :=
  match fuel with
  | 0 => failure
  | fuel + 1 => do
    let ends := [.comma, .bracketClose]
    let key ← if ← atAny (.value :: ends) then do
        skip 1
        pure Node.empty
      else node fuel false false
    return .mapping [(key, ← valueBefore fuel false ends)] none

def flowMembers (fuel : Nat) (read : List (Node × Node)) : Reader (List (Node × Node)) :=
  match fuel with
  | 0 => failure
  | fuel + 1 => do
    if !read.isEmpty && !(← atAny [.braceClose]) then
      if ← atAny [.comma] then skip 1 else failure
    let ends := [.comma, .braceClose]
    match ← peek with
    | some .braceClose =>
      skip 1
      pure read.reverse
    | some .key =>
      skip 1
      let key ← nodeBefore fuel false false (.value :: ends)
      flowMembers fuel ((key, ← valueBefore fuel false ends) :: read)
    | _ =>
      let key ← node fuel false false
      flowMembers fuel ((key, .empty) :: read)

end

/-! ### Documents -/

def standardHandles : List (List Char × TagText) :=
  [(['!'], [some '!']), (['!', '!'], "tag:yaml.org,2002:".toList.map some)]

/-- Take over the directives at the head of a document: one version that is known, and one meaning
for a handle. -/
def directives (versioned : Bool) (handles : List (List Char × TagText)) : List Token → Reader Unit
  | .directive (.version major minor) :: rest =>
    if versioned ∨ major ≠ 1 ∨ (minor ≠ 1 ∧ minor ≠ 2) then failure
    else directives true handles rest
  | .directive (.handle name meaning) :: rest =>
    if (handles.lookup name).isSome then failure
    else directives versioned ((name, meaning) :: handles) rest
  | tokens => modify fun s => { s with tokens, handles := handles ++ standardHandles }

/-- Whether the next token ends a document, whose content is left out then. -/
def atDocumentEnd : Reader Bool := do
  match ← peek with
  | some (.directive _) | some .documentStart | some .documentEnd | none => pure true
  | _ => pure false

def documentEnds : Reader Unit :=
  modify fun s => { s with tokens := s.tokens.dropWhile (· == .documentEnd) }

/-- The one document of a text. Behind directives the mark of its start must follow, and behind the
document only the marks of its end. -/
def document (fuel : Nat) : Reader Document := do
  let directed := match ← peek with
    | some (.directive _) => true
    | _ => false
  directives false [] (← get).tokens
  let root ← match ← peek with
    | some .documentStart => do
      skip 1
      if ← atDocumentEnd then pure Node.empty else node fuel true false
    | none => if directed then failure else pure Node.empty
    | some _ => if directed then failure else node fuel true false
  documentEnds
  let s ← get
  if s.tokens.isEmpty then pure ⟨root, s.named.toList⟩ else failure

end Reader

end CephExport.Yaml.Node

namespace CephExport.Yaml

def Document.ofTokens? (tokens : List Token) : Option Document :=
  ((Node.Reader.document (8 * tokens.length + 8)).run { tokens }).map Prod.fst

end CephExport.Yaml
