import CephExport.Json.Pointer
import CephExport.Reconcile.Pass

/-!
The objects that a cluster's API keeps, each with a version that every write renews, and what can be
arranged for calls on them: kinds whose deletions only mark, kinds that are out of reach, and faults
that hit a single call.
-/

set_option autoImplicit false
set_option relaxedAutoImplicit false

namespace CephExport

inductive StoredKind
  | managed (kind : Kind)
  | cluster
  deriving DecidableEq

namespace StoredKind

def name : StoredKind → String
  | managed kind => kind.name
  | cluster => "StorageCluster"

def all : List StoredKind := [managed .blockPool, managed .exporter, managed .service, cluster]

def ofName? (name : String) : Option StoredKind := all.find? fun kind => kind.name == name

end StoredKind

inductive CallName
  | get
  | create
  | replace
  | delete
  | patch
  deriving DecidableEq

def CallName.text : CallName → String
  | get => "get"
  | create => "create"
  | replace => "replace"
  | delete => "delete"
  | patch => "patch"

inductive FaultEffect
  | remove
  | touch (patch : Json)

/-- A fault that hits one call; `ε` is the form in which the call fails. -/
structure Fault (ε : Type) where
  kind : StoredKind
  call : CallName
  /-- How many calls pass the fault by first. -/
  skip : Nat
  effect : Option FaultEffect
  /-- How the call fails; without it the call goes on. -/
  answer : Option ε

structure StoredObject where
  kind : StoredKind
  key : ObjectKey
  value : Json

/-- All that is kept, and what is arranged for calls. -/
structure World (ε : Type) where
  objects : List StoredObject := []
  /-- The last version that was given out. -/
  version : Nat := 0
  /-- The kinds whose deletions only mark. -/
  finalized : List StoredKind := []
  /-- The kinds that are out of reach. -/
  unavailable : List StoredKind := []
  faults : List (Fault ε) := []

namespace World

variable {ε : Type}

def isAt (kind : StoredKind) (key : ObjectKey) (object : StoredObject) : Bool :=
  object.kind == kind && object.key == key

def find? (world : World ε) (kind : StoredKind) (key : ObjectKey) : Option Json :=
  (world.objects.find? (isAt kind key)).map (·.value)

def put (world : World ε) (kind : StoredKind) (key : ObjectKey) (value : Json) : World ε :=
  { world with
    objects :=
      if world.objects.any (isAt kind key) then
        world.objects.map fun object =>
          if isAt kind key object then { object with value } else object
      else world.objects ++ [⟨kind, key, value⟩] }

def remove (world : World ε) (kind : StoredKind) (key : ObjectKey) : World ε :=
  { world with objects := world.objects.filter fun object => !isAt kind key object }

def withMetadata (value : Json) (key : String) (member : Json) : Json :=
  value.setMember "metadata" ((value.memberOrNull "metadata").setMember key member)

def store (world : World ε) (kind : StoredKind) (key : ObjectKey) (value : Json) : Json × World ε :=
  let version := world.version + 1
  let value := withMetadata value "resourceVersion" (.string (toString version))
  (value, { world with version }.put kind key value)

def touch (world : World ε) (kind : StoredKind) (key : ObjectKey) (patch : Json) : World ε :=
  match world.find? kind key with
  | some value => (world.store kind key (value.mergePatch patch)).2
  | none => world

/-- The version of an object; absent and null are the same. -/
def versionOf (value : Json) : Json := (value.at? ["metadata", "resourceVersion"]).getD .null

def isMarked (value : Json) : Bool :=
  !((value.at? ["metadata", "deletionTimestamp"]).getD .null).isNull

def markTime : Json := .string "2025-01-01T00:00:00Z"

/-- Delete an object: mark it where its kind is only marked, and remove it otherwise. -/
def delete (world : World ε) (kind : StoredKind) (key : ObjectKey) (value : Json) :
    Json × World ε :=
  if world.finalized.contains kind then
    let marked := withMetadata value "deletionTimestamp" markTime
    (marked, world.put kind key marked)
  else (value, world.remove kind key)

/-- Meet the first fault that fits a call: it lets the call pass, or takes effect and is used up.
Gives how the call fails, if it does. -/
def meetFault (world : World ε) (kind : StoredKind) (call : CallName) (key : ObjectKey) :
    Option ε × World ε :=
  let rec split : List (Fault ε) → List (Fault ε) × Option (Fault ε)
    | [] => ([], none)
    | fault :: rest =>
      if fault.kind == kind && fault.call == call then
        if 0 < fault.skip then ({ fault with skip := fault.skip - 1 } :: rest, none)
        else (rest, some fault)
      else
        let (others, found) := split rest
        (fault :: others, found)
  let (faults, found) := split world.faults
  let world := { world with faults }
  match found with
  | none => (none, world)
  | some fault =>
    let world := match fault.effect with
      | none => world
      | some .remove => world.remove kind key
      | some (.touch patch) => world.touch kind key patch
    (fault.answer, world)

def summary (object : StoredObject) : String × Json :=
  let shown (path : List String) : Json := (object.value.at? path).getD .null
  let common : Members :=
    [("rv", shown ["metadata", "resourceVersion"]), ("deleting", .bool (isMarked object.value))]
  let more : Members :=
    if object.kind == .cluster then
      [("finalizers", shown ["metadata", "finalizers"]), ("status", shown ["status"])]
    else []
  (object.kind.name ++ " " ++ object.key.namespace ++ "/" ++ object.key.name,
    .ofMembers (common ++ more))

def summaries (world : World ε) : Json := .ofMembers (world.objects.map summary)

end World

end CephExport
