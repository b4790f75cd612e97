import CephExport.Http.Message
import CephExport.Json.Pointer
import CephExport.Store.World

/-!
The calls of a pass as exchanges with the API server: the request that each call makes, and what its
answer means.
-/

set_option autoImplicit false
set_option relaxedAutoImplicit false

namespace CephExport

namespace StoredKind

/-- Where the API keeps the objects of a kind: ahead of the namespace and behind it. -/
def pathParts : StoredKind → String × String
  | managed .blockPool => ("/apis/ceph.rook.io/v1", "cephblockpools")
  | managed .exporter => ("/apis/ceph.rook.io/v1", "cephnfses")
  | managed .service => ("/api/v1", "services")
  | cluster => ("/apis/nfs-operator.io/v1alpha1", "storageclusters")

def plural (kind : StoredKind) : String := kind.pathParts.2

def collectionPath (kind : StoredKind) («namespace» : String) : String :=
  kind.pathParts.1 ++ "/namespaces/" ++ «namespace» ++ "/" ++ kind.plural

def listPath (kind : StoredKind) : String := kind.pathParts.1 ++ "/" ++ kind.plural

end StoredKind

namespace Json.PatchOperation

def pathText (path : List String) : String :=
  String.join (path.map fun token => "/" ++ String.ofList (escapeToken token.toList))

instance : Codec PatchOperation where
  encode
    | .test path value =>
      .object [("op", .string "test"), ("path", .string (pathText path)), ("value", value)]
    | .add path value =>
      .object [("op", .string "add"), ("path", .string (pathText path)), ("value", value)]
    | .remove path => .object [("op", .string "remove"), ("path", .string (pathText path))]
  decode? json := do
    let path ← ((json.member? "path").bind Json.string?).bind pointer?
    match json.member? "op" with
    | some (.string "test") => some (.test path (json.memberOrNull "value"))
    | some (.string "add") => some (.add path (json.memberOrNull "value"))
    | some (.string "remove") => some (.remove path)
    | _ => none

end Json.PatchOperation

def fieldManager : String := "operator.nfs-operator.io"

namespace Call

def jsonType : String := "application/json"

def mergePatchType : String := "application/merge-patch+json"

def jsonPatchType : String := "application/json-patch+json"

/-- The query of requests that write; an ampersand stands before each pair. -/
def managerQuery : String := "&fieldManager=" ++ fieldManager

/-- The address of an object, which must have a name. -/
def objectTarget? (kind : StoredKind) (key : ObjectKey) (extra query : String) :
    Option HttpTarget :=
  if key.name = "" then none
  else HttpTarget.ofText? (kind.collectionPath key.namespace ++ "/" ++ key.name ++ extra ++
    "?" ++ query)

def finalizersPath : List String := ["metadata", "finalizers"]

/-- The patch that adds the finalizer to an object that has just the given ones. -/
def additionPatch (present : List String) : List Json.PatchOperation :=
  if present.isEmpty then
    [.test finalizersPath .null, .add finalizersPath (encode [clusterFinalizer])]
  else
    [.test finalizersPath (encode present),
      .add (finalizersPath ++ ["-"]) (.string clusterFinalizer)]

/-- The patch that removes the finalizer, which must be at the given position. -/
def removalPatch (position : Nat) : List Json.PatchOperation :=
  let path := finalizersPath ++ [toString position]
  [.test path (.string clusterFinalizer), .remove path]

def statusPatch (phase : Phase) (now : Timestamp) : Json :=
  .object [("status", encode (⟨phase.text, some now⟩ : ClusterStatus))]

/-- The request of a call that is made at some time; none where it cannot be built. -/
def request? (now : Timestamp) : Call → Option HttpRequest
  | .get kind key => do
    let target ← objectTarget? (.managed kind) key "" ""
    some { method := .get, target }
  | .create kind «namespace» object => do
    let target ← HttpTarget.ofText?
      (StoredKind.collectionPath (.managed kind) «namespace» ++ "?" ++ managerQuery)
    some { method := .post, target, contentType := some jsonType,
           body := some (encode object : Json).transferred }
  | .replace kind key object => do
    let target ← objectTarget? (.managed kind) key "" managerQuery
    some { method := .put, target, contentType := some jsonType,
           body := some (encode object : Json).transferred }
  | .delete kind key => do
    let target ← objectTarget? (.managed kind) key "" ""
    some { method := .delete, target, contentType := some jsonType,
           body := some (.object [("propagationPolicy", .string "Background")]) }
  | .setPhase key phase => do
    let target ← objectTarget? .cluster key "/status" managerQuery
    some { method := .patch, target, contentType := some mergePatchType,
           body := some (statusPatch phase now) }
  | .addFinalizer key present => do
    let target ← objectTarget? .cluster key "" ""
    some { method := .patch, target, contentType := some jsonPatchType,
           body := some (encode (additionPatch present)) }
  | .removeFinalizer key position => do
    let target ← objectTarget? .cluster key "" ""
    some { method := .patch, target, contentType := some jsonPatchType,
           body := some (encode (removalPatch position)) }

def successObject {α : Type} [Codec α] (response : HttpResponse) : Except OperatorError α :=
  if response.isFailure then .error (.api response.failure)
  else
    match response.body.written?.bind (decode? : Json → Option α) with
    | some object => .ok object
    | none => .error (.exchange .unreadableAnswer)

def absenceReason : String := "NotFound"

/-- The object that was read: a failure for the reason of absence means that there is none. -/
def readReply {α : Type} [Codec α] (response : HttpResponse) : Except OperatorError (Option α) :=
  match (successObject response : Except OperatorError α) with
  | .ok object => .ok (some object)
  | .error (.api failure) =>
    if failure.reason = absenceReason then .ok none else .error (.api failure)
  | .error error => .error error

/-- Whether an object was deleted: the answer is a status or what is left of the object, and a
failure with the code of absence names what was not there. -/
def deletionReply (kind : Kind) (key : ObjectKey) (response : HttpResponse) :
    Except OperatorError Unit :=
  let reply : Except OperatorError Unit := do
    if response.isFailure then .error (.api response.failure)
    else
      match response.body.settled? with
      | none => .error (.exchange .unreadableAnswer)
      | some json =>
        if (json.member? "kind").bind Json.string? == some "Status" then
          (successObject response : Except OperatorError StatusReport).map fun _ => ()
        else (successObject response : Except OperatorError (Managed kind)).map fun _ => ()
  match reply with
  | .error error => if error.isNotFound then .error (.notFound key.name) else .error error
  | .ok _ => .ok ()

def patchReply (response : HttpResponse) : Except OperatorError Unit :=
  (successObject response : Except OperatorError V1alpha1.Cluster).map fun _ => ()

def reply : (call : Call) → HttpResponse → call.Answer
  | .get _ _, response => readReply response
  | .create kind _ _, response => (successObject response : Except OperatorError (Managed kind))
  | .replace kind _ _, response => (successObject response : Except OperatorError (Managed kind))
  | .delete kind key, response => deletionReply kind key response
  | .setPhase _ _, response => patchReply response
  | .addFinalizer _ _, response => patchReply response
  | .removeFinalizer _ _, response => patchReply response

def exchange {σ : Type} (now : Timestamp) (serve : HttpRequest → σ → HttpResponse × σ) (call : Call)
    (state : σ) :
    call.Answer × σ :=
  match call.request? now with
  | none => (.error (.exchange .buildRequest), state)
  | some request =>
    let (response, state) := serve request state
    (call.reply response, state)

end Call

end CephExport
