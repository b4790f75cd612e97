import CephExport.Store.World

/-!
Calls answered from the kept objects directly, as by an object store in memory.
-/

set_option autoImplicit false
set_option relaxedAutoImplicit false

namespace CephExport.MemoryStore

/-- The world of a store in memory, whose calls fail with errors of the operator. -/
abbrev MemoryWorld := World OperatorError

def listing (name : CallName) (kind : Kind) (key : ObjectKey) (object : Option Json) : Json :=
  .ofMembers ([("call", .string name.text), ("kind", .string kind.name),
    ("namespace", .string key.namespace), ("name", .string key.name)] ++
    (object.map fun object => ("object", object)).toList)

/-- The object that a kept value stands for; one that cannot be read is a failure of the store. -/
def read (kind : Kind) (value : Json) : Except OperatorError (Managed kind) :=
  match decode? value with
  | some object => .ok object
  | none => .error (.store "unreadable object")

/-- Let a call through to the kept objects unless its kind is out of reach or a fault makes it
fail. -/
def guarded {α : Type} (world : MemoryWorld) (kind : Kind) (name : CallName) (key : ObjectKey)
    (serve : MemoryWorld → Except OperatorError α × MemoryWorld) :
    Except OperatorError α × MemoryWorld :=
  if world.unavailable.contains (.managed kind) then (.error (.store "store unavailable"), world)
  else
    match world.meetFault (.managed kind) name key with
    | (some error, world) => (.error error, world)
    | (none, world) => serve world

def get (kind : Kind) (key : ObjectKey) (world : MemoryWorld) :
    Except OperatorError (Option (Managed kind)) × MemoryWorld :=
  match world.find? (.managed kind) key with
  | none => (.ok none, world)
  | some value => ((read kind value).map some, world)

def create (kind : Kind) (key : ObjectKey) (object : Json) (world : MemoryWorld) :
    Except OperatorError (Managed kind) × MemoryWorld :=
  if (world.find? (.managed kind) key).isSome then
    (.error (.store (key.name ++ " already exists")), world)
  else
    let (value, world) :=
      world.store (.managed kind) key
        (World.withMetadata object "uid" (.string ("uid-" ++ key.name)))
    (read kind value, world)

/-- Replace an object at the version that the new one carries. -/
def replace (kind : Kind) (key : ObjectKey) (object : Json) (world : MemoryWorld) :
    Except OperatorError (Managed kind) × MemoryWorld :=
  match world.find? (.managed kind) key with
  | none => (.error (.store (key.name ++ " not found")), world)
  | some live =>
    if (World.versionOf live).same (World.versionOf object) then
      let (value, world) := world.store (.managed kind) key object
      (read kind value, world)
    else (.error (.store ("conflict replacing " ++ key.name)), world)

def delete (kind : Kind) (key : ObjectKey) (world : MemoryWorld) :
    Except OperatorError Unit × MemoryWorld :=
  match world.find? (.managed kind) key with
  | none => (.error (.notFound key.name), world)
  | some value => (.ok (), (world.delete (.managed kind) key value).2)

/-- A world and the calls made on it, the last one first. -/
abbrev Session := MemoryWorld × List Json

/-- Answer a call and list it. A store in memory keeps no clusters. -/
def answer (call : Call) (session : Session) : call.Answer × Session :=
  let (world, calls) := session
  match call with
  | .get kind key =>
    let (reply, world) := guarded world kind .get key (get kind key)
    (reply, world, listing .get kind key none :: calls)
  | .create kind «namespace» object =>
    let key : ObjectKey := ⟨«namespace», object.metadata.displayName⟩
    let (reply, world) := guarded world kind .create key (create kind key (encode object))
    (reply, world, listing .create kind key (some (encode object)) :: calls)
  | .replace kind key object =>
    let (reply, world) := guarded world kind .replace key (replace kind key (encode object))
    (reply, world, listing .replace kind key (some (encode object)) :: calls)
  | .delete kind key =>
    let (reply, world) := guarded world kind .delete key (delete kind key)
    (reply, world, listing .delete kind key none :: calls)
  | .setPhase key _ => (.error (.notFound key.name), session)
  | .addFinalizer key _ => (.error (.notFound key.name), session)
  | .removeFinalizer key _ => (.error (.notFound key.name), session)

end CephExport.MemoryStore
