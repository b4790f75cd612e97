import CephExport.Http.Client

/-!
An API server over the kept objects.
-/

set_option autoImplicit false
set_option relaxedAutoImplicit false

namespace CephExport.ApiServer

/-- The world of a server, whose calls fail with responses. -/
abbrev ServerWorld := World HttpResponse

def failureBody (message reason : String) (code : Nat) : Json :=
  .object [("code", .ofNat code), ("message", .string message), ("reason", .string reason),
    ("status", .string "Failure")]

def failed (code : Nat) (reason message : String) : HttpResponse :=
  ⟨code, .json (failureBody message reason code)⟩

def described (kind : StoredKind) (name : String) : String := kind.plural ++ " \"" ++ name ++ "\""

def absent (kind : StoredKind) (name : String) : HttpResponse :=
  failed 404 Call.absenceReason (described kind name ++ " not found")

def outOfReach : HttpResponse := failed 503 "ServiceUnavailable" "store unavailable"

def answered (value : Json) : HttpResponse := ⟨200, .json value⟩

def success : HttpResponse :=
  answered (.object [("apiVersion", .string "v1"), ("kind", .string "Status"),
    ("status", .string "Success")])

structure Route where
  kind : StoredKind
  «namespace» : String
  name : Option String

def route? (path : String) : Option Route :=
  StoredKind.all.findSome? fun kind =>
    match path.splitOn "/", kind.pathParts.1.splitOn "/" with
    | parts, start =>
      if start.isPrefixOf parts then
        match parts.drop start.length with
        | ["namespaces", ns, plural] => if plural = kind.plural then some ⟨kind, ns, none⟩ else none
        | ["namespaces", ns, plural, name] =>
          if plural = kind.plural then some ⟨kind, ns, some name⟩ else none
        | ["namespaces", ns, plural, name, "status"] =>
          if plural = kind.plural then some ⟨kind, ns, some name⟩ else none
        | _ => none
      else none

def callOf : HttpMethod → CallName
  | .get => .get
  | .post => .create
  | .put => .replace
  | .delete => .delete
  | .patch => .patch

def create (kind : StoredKind) (key : ObjectKey) (body : Json) (world : ServerWorld) :
    HttpResponse × ServerWorld :=
  if (world.find? kind key).isSome then
    (failed 409 "AlreadyExists" (described kind key.name ++ " already exists"), world)
  else
    let (value, world) := world.store kind key
      (World.withMetadata body "uid" (.string ("uid-" ++ key.name)))
    (⟨201, .json value⟩, world)

/-- Replace an object at the version that the new one carries. -/
def replace (kind : StoredKind) (key : ObjectKey) (body live : Json) (world : ServerWorld) :
    HttpResponse × ServerWorld :=
  if (World.versionOf live).same (World.versionOf body) then
    let (value, world) := world.store kind key body
    (answered value, world)
  else (failed 409 "Conflict" (described kind key.name ++ " has been modified"), world)

/-- Delete an object: what is left of it is answered where it is only marked. -/
def delete (kind : StoredKind) (key : ObjectKey) (live : Json) (world : ServerWorld) :
    HttpResponse × ServerWorld :=
  let marksOnly := world.finalized.contains kind
  let (value, world) := world.delete kind key live
  (if marksOnly then answered value else success, world)

def patched? (contentType : Option String) (live body : Json) : Option Json :=
  if contentType = some Call.jsonPatchType then
    (decode? body : Option (List Json.PatchOperation)).bind live.applyPatch
  else some (live.mergePatch body)

def isReleased (value : Json) : Bool :=
  World.isMarked value &&
    match value.at? Call.finalizersPath with
    | some (.array items) => items.isEmpty
    | some .null => true
    | some _ => false
    | none => true

/-- Patch an object; a marked one whose last finalizer is gone is removed. -/
def patch (kind : StoredKind) (key : ObjectKey) (contentType : Option String) (body live : Json)
    (world : ServerWorld) :
    HttpResponse × ServerWorld :=
  match patched? contentType live body with
  | none =>
    (failed 422 "Invalid" "the server rejected our request due to an error in our request", world)
  | some value =>
    let (value, world) := world.store kind key value
    (answered value, if isReleased value then world.remove kind key else world)

/-- The place of the object that a request is about; a new object carries its name itself. -/
def keyOf (route : Route) (request : HttpRequest) : ObjectKey :=
  match route.name with
  | some name => ⟨route.namespace, name⟩
  | none => ⟨route.namespace,
    (((request.body.getD .null).at? ["metadata", "name"]).bind Json.string?).getD ""⟩

def serve (kind : StoredKind) (key : ObjectKey) (request : HttpRequest) (world : ServerWorld) :
    HttpResponse × ServerWorld :=
  let body := request.body.getD .null
  match request.method, world.find? kind key with
  | .post, _ => create kind key body world
  | _, none => (absent kind key.name, world)
  | .get, some live => (answered live, world)
  | .put, some live => replace kind key body live world
  | .delete, some live => delete kind key live world
  | .patch, some live => patch kind key request.contentType body live world

/-- Answer a request unless its kind is out of reach or a fault makes it fail. -/
def handle (request : HttpRequest) (world : ServerWorld) : HttpResponse × ServerWorld :=
  match route? request.target.path with
  | none => (failed 404 Call.absenceReason "no such path", world)
  | some route =>
    let key := keyOf route request
    if world.unavailable.contains route.kind then (outOfReach, world)
    else
      match world.meetFault route.kind (callOf request.method) key with
      | (some response, world) => (response, world)
      | (none, world) => serve route.kind key request world

/-- A world and the requests made on it, the last one first. -/
abbrev Session := ServerWorld × List Json

def sessionTime : Timestamp := ⟨946684800, 0⟩

def answer (call : Call) (session : Session) : call.Answer × Session :=
  call.exchange sessionTime
    (fun request (world, calls) =>
      let (response, world) := handle request world
      (response, world, request.listing :: calls))
    session

end CephExport.ApiServer
