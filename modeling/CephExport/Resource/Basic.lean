import CephExport.Kube.Metadata
import CephExport.Kube.Service
import CephExport.Rook.Spec

/-!
The kinds of resources that the operator keeps for a cluster, and their objects: metadata that all
kinds share and a body of each kind.
-/

set_option autoImplicit false
set_option relaxedAutoImplicit false

namespace CephExport

inductive Kind
  /-- The pool in which the NFS servers keep their recovery data. -/
  | blockPool
  /-- The NFS servers. -/
  | exporter
  /-- The address of the NFS servers. -/
  | service
  deriving DecidableEq

structure ServiceBody where
  spec : Option ServiceSpec := none
  status : Option ServiceStatus := none
  deriving DecidableEq

namespace Kind

def name : Kind → String
  | blockPool => "CephBlockPool"
  | exporter => "CephNFS"
  | service => "Service"

def apiVersion : Kind → String
  | blockPool | exporter => "ceph.rook.io/v1"
  | service => "v1"

/-- The tag of a kind, which its objects carry as component label and at the end of their names. -/
def tag : Kind → String
  | blockPool => "cephnfs-builtin-pool"
  | exporter => "cephnfs"
  | service => "cephnfs-service"

def Body : Kind → Type
  | blockPool => BlockPoolSpec
  | exporter => ExporterSpec
  | service => ServiceBody

instance (kind : Kind) : DecidableEq kind.Body :=
  match kind with
  | blockPool => inferInstanceAs (DecidableEq BlockPoolSpec)
  | exporter => inferInstanceAs (DecidableEq ExporterSpec)
  | service => inferInstanceAs (DecidableEq ServiceBody)

end Kind

structure Managed (kind : Kind) where
  metadata : ObjectMeta
  body : kind.Body

namespace Managed

def bodyMembers : (kind : Kind) → kind.Body → Members
  | .blockPool, spec => member (α := BlockPoolSpec) "spec" spec
  | .exporter, spec => member (α := ExporterSpec) "spec" spec
  | .service, (body : ServiceBody) => memberSome "spec" body.spec ++ memberSome "status" body.status

def decodeCustom? {α : Type} [Codec α] (json : Json) : Option (ObjectMeta × α) := do
  let r ← Record.of? ["metadata", "spec"] json
  let metadata ← r.required? 0 "metadata"
  let spec ← r.required? 1 "spec"
  some (metadata, spec)

/-- Whether a type member of a Kubernetes object is absent or what is expected wherever it is
given. -/
def typeMember (members : Members) (key expected : String) : Bool :=
  (Json.valuesOf key members).all fun json => json.string? == some expected

/-- A Service is a Kubernetes record whose type members, where they are given, must be right. -/
def decodeService? (json : Json) : Option (ObjectMeta × ServiceBody) := do
  let m ← json.members?
  if !(typeMember m "apiVersion" "v1" && typeMember m "kind" "Service") then none
  else
    let metadata ← m.orZero? "metadata" {}
    let spec ← m.optional? "spec"
    let status ← m.optional? "status"
    some (metadata, { spec, status })

def decodeParts? : (kind : Kind) → Json → Option (ObjectMeta × kind.Body)
  | .blockPool, json => decodeCustom? (α := BlockPoolSpec) json
  | .exporter, json => decodeCustom? (α := ExporterSpec) json
  | .service, json => decodeService? json

/-- The type members of an object are always written and come from its kind. -/
instance (kind : Kind) : Codec (Managed kind) where
  encode object := .object (member "apiVersion" kind.apiVersion ++ member "kind" kind.name ++
    member "metadata" object.metadata ++ bodyMembers kind object.body)
  decode? json := (decodeParts? kind json).map fun (metadata, body) => ⟨metadata, body⟩

end Managed

end CephExport
