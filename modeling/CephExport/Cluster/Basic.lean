import CephExport.Kube.Metadata
import CephExport.Rook.Spec

/-!
Storage clusters: the served format `v1alpha1`, the internal form that every format is converted to,
and the conversion.
-/

set_option autoImplicit false
set_option relaxedAutoImplicit false

namespace CephExport

/-- How far the operator is with a cluster. -/
inductive Phase
  | progressing
  | ready
  | deleting
  deriving DecidableEq

namespace Phase

def text : Phase → String
  | progressing => "progressing"
  | ready => "ready"
  | deleting => "deleting"

def ofText? (text : String) : Option Phase :=
  [progressing, ready, deleting].find? fun phase => phase.text == text

/-- A phase reads from its text, or from an object with null under that text alone. -/
instance : Codec Phase where
  encode phase := .string phase.text
  decode?
    | .string text => ofText? text
    | .object [(text, .null)] => ofText? text
    | _ => none

theorem ofText?_text (phase : Phase) : ofText? phase.text = some phase := by
  cases phase <;> decide

end Phase

structure ClusterStatus where
  phase : String
  lastUpdated : Option Timestamp
  deriving DecidableEq

instance : Codec ClusterStatus where
  encode s := .object (memberOrNull "lastUpdated" s.lastUpdated ++ member "phase" s.phase)
  decode? json := do
    let r ← Record.of? ["phase", "lastUpdated"] json
    let phase ← r.required? 0 "phase"
    let lastUpdated ← r.nullable? 1 "lastUpdated"
    some { phase, lastUpdated }

namespace V1alpha1

/-- Whether NFS is exported, in the served format. -/
structure NfsSpec where
  enable : Bool := false
  deriving DecidableEq

instance : Codec NfsSpec where
  encode s := .object (member "enable" s.enable)
  decode? json := do
    let r ← Record.of? ["enable"] json
    let enable ← r.withDefault? 0 "enable" false
    some { enable }

/-- The network of the daemons, in the served format. -/
structure NetworkSpec where
  hostNetwork : Bool := false
  deriving DecidableEq

instance : Codec NetworkSpec where
  encode s := .object (member "hostNetwork" s.hostNetwork)
  decode? json := do
    let r ← Record.of? ["hostNetwork"] json
    let hostNetwork ← r.withDefault? 0 "hostNetwork" false
    some { hostNetwork }

/-- What a cluster declares, in the served format. -/
structure ClusterSpec where
  nfs : Option NfsSpec := none
  network : Option NetworkSpec := none
  resources : KeyMap ResourceRequirements := .empty
  placement : KeyMap Placement := .empty
  failureDomain : Option String := none
  replica : Option UInt32 := none
  deriving DecidableEq

/-- A map that is written only where it has members. -/
def memberNonempty {α : Type} [Codec α] (key : String) (map : KeyMap α) : Members :=
  if map.isEmpty then [] else member key map

instance : Codec ClusterSpec where
  encode s := .object (memberSome "failureDomain" s.failureDomain ++
    memberSome "network" s.network ++ memberSome "nfs" s.nfs ++
    memberNonempty "placement" s.placement ++ memberSome "replica" s.replica ++
    memberNonempty "resources" s.resources)
  decode? json := do
    let r ← Record.of? ["nfs", "network", "resources", "placement", "failureDomain", "replica"] json
    let nfs ← r.optional? 0 "nfs"
    let network ← r.optional? 1 "network"
    let resources ← r.withDefault? 2 "resources" .empty
    let placement ← r.withDefault? 3 "placement" .empty
    let failureDomain ← r.optional? 4 "failureDomain"
    let replica ← r.optional? 5 "replica"
    some { nfs, network, resources, placement, failureDomain, replica }

/-- A storage cluster as it is served. -/
structure Cluster where
  metadata : ObjectMeta
  spec : ClusterSpec
  status : Option ClusterStatus

def apiVersion : String := "nfs-operator.io/v1alpha1"

instance : Codec Cluster where
  encode c := .object (member "apiVersion" apiVersion ++ member "kind" "StorageCluster" ++
    member "metadata" c.metadata ++ member "spec" c.spec ++ memberSome "status" c.status)
  decode? json := do
    let r ← Record.of? ["metadata", "spec", "status"] json
    let metadata ← r.required? 0 "metadata"
    let spec ← r.required? 1 "spec"
    let status ← r.nullable? 2 "status"
    some { metadata, spec, status }

end V1alpha1

structure NfsSpec where
  enable : Bool
  deriving DecidableEq

instance : Codec NfsSpec where
  encode s := .object (member "enable" s.enable)
  decode? json := do
    let r ← Record.of? ["enable"] json
    let enable ← r.required? 0 "enable"
    some { enable }

structure NetworkSpec where
  hostNetwork : Bool
  deriving DecidableEq

instance : Codec NetworkSpec where
  encode s := .object (member "host_network" s.hostNetwork)
  decode? json := do
    let r ← Record.of? ["host_network"] json
    let hostNetwork ← r.required? 0 "host_network"
    some { hostNetwork }

structure ClusterSpec where
  nfs : Option NfsSpec := none
  network : Option NetworkSpec := none
  resources : KeyMap ResourceRequirements := .empty
  placement : KeyMap Placement := .empty
  failureDomain : Option String := none
  replica : Option UInt32 := none
  deriving DecidableEq

instance : Codec ClusterSpec where
  encode s := .object (memberSome "failure_domain" s.failureDomain ++
    memberSome "network" s.network ++ memberSome "nfs" s.nfs ++ member "placement" s.placement ++
    memberSome "replica" s.replica ++ member "resources" s.resources)
  decode? json := do
    let r ← Record.of? ["nfs", "network", "resources", "placement", "failure_domain",
      "replica"] json
    let nfs ← r.optional? 0 "nfs"
    let network ← r.optional? 1 "network"
    let resources ← r.withDefault? 2 "resources" .empty
    let placement ← r.withDefault? 3 "placement" .empty
    let failureDomain ← r.optional? 4 "failure_domain"
    let replica ← r.optional? 5 "replica"
    some { nfs, network, resources, placement, failureDomain, replica }

structure Cluster where
  metadata : ObjectMeta
  spec : ClusterSpec
  status : Option ClusterStatus

instance : Codec Cluster where
  encode c :=
    .object (member "metadata" c.metadata ++ member "spec" c.spec ++ memberOrNull "status" c.status)
  decode? json := do
    let r ← Record.of? ["metadata", "spec", "status"] json
    let metadata ← r.required? 0 "metadata"
    let spec ← r.required? 1 "spec"
    let status ← r.nullable? 2 "status"
    some { metadata, spec, status }

namespace Cluster

/-- Whether NFS is exported; without a section for it, it is not. -/
def nfsEnabled (cluster : Cluster) : Bool := cluster.spec.nfs.any (·.enable)

def hostNetwork (cluster : Cluster) : Bool := cluster.spec.network.any (·.hostNetwork)

end Cluster

def V1alpha1.ClusterSpec.toSpec (spec : V1alpha1.ClusterSpec) : CephExport.ClusterSpec where
  nfs := spec.nfs.map fun nfs => { enable := nfs.enable }
  network := spec.network.map fun network => { hostNetwork := network.hostNetwork }
  resources := spec.resources
  placement := spec.placement
  failureDomain := spec.failureDomain
  replica := spec.replica

/-- The internal form of a served cluster. -/
def V1alpha1.Cluster.toCluster (cluster : V1alpha1.Cluster) : CephExport.Cluster where
  metadata := cluster.metadata
  spec := cluster.spec.toSpec
  status := cluster.status

end CephExport
