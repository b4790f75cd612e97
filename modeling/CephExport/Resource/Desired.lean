import CephExport.Cluster.Basic
import CephExport.Naming
import CephExport.Resource.Basic
import CephExport.Resource.Owner
import CephExport.Settings.Basic

/-!
The objects that a cluster is to have.
-/

set_option autoImplicit false
set_option relaxedAutoImplicit false

namespace CephExport

def nfsDaemon : String := "nfs"

def allDaemons : String := "all"

/-- The resources of a daemon that a cluster says nothing about: the NFS servers have three
processors and eight gibibytes, others nothing in particular. -/
def defaultDaemonResources (daemon : String) : ResourceRequirements :=
  if daemon = nfsDaemon then
    let quantities : KeyMap Quantity := .ofList [("cpu", ⟨"3"⟩), ("memory", ⟨"8Gi"⟩)]
    { limits := some quantities, requests := some quantities }
  else {}

/-- The resources of a daemon: what is declared for it, or the default. -/
def daemonResources (daemon : String) (declared : KeyMap ResourceRequirements) :
    ResourceRequirements :=
  (declared.get? daemon).getD (defaultDaemonResources daemon)

/-- The placement of daemons that a cluster says nothing about: on labelled storage nodes, whose
taint they tolerate. -/
def defaultPlacement (settings : ControllerSettings) : Placement where
  nodeAffinity := some {
    required := some {
      nodeSelectorTerms := [{
        matchExpressions :=
          some [{ key := settings.storageNodeLabel, operator := "Exists", values := none }] }] } }
  tolerations := some [{
    key := some settings.storageNodeTaint
    operator := some "Equal"
    value := some "true"
    effect := some "NoSchedule" }]

/-- The placement of a daemon: what is declared for it, or for all daemons, or the default. -/
def placementOf (cluster : Cluster) (daemon : String) (settings : ControllerSettings) : Placement :=
  match cluster.spec.placement.get? daemon with
  | some placement => placement
  | none => (cluster.spec.placement.get? allDaemons).getD (defaultPlacement settings)

def nfsPoolName : String := ".nfs"

/-- The share of the capacity that the pool is planned with, 0.49. -/
def nfsPoolRatio : Double := ⟨0x3FDF5C28F5C28F5C, by decide⟩

def nfsPort : Int32 := 2049

def nfsAppLabel : String := "rook-ceph-nfs"

/-- The cluster address of a Service that has none. -/
def headlessAddress : String := "None"

def desiredPool (cluster : Cluster) (settings : ControllerSettings) : BlockPoolSpec where
  name := some nfsPoolName
  failureDomain := some (cluster.spec.failureDomain.getD settings.defaultFailureDomain)
  replicated := {
    size := cluster.spec.replica.getD settings.defaultReplicaSize
    requireSafeReplicaSize := true
    replicasPerFailureDomain := some 1
    targetSizeRatio := some nfsPoolRatio }
  enableRBDStats := true

def desiredExporter (cluster : Cluster) (settings : ControllerSettings) : ExporterSpec where
  server := {
    active := 1
    placement := some (placementOf cluster nfsDaemon settings)
    resources := some (daemonResources nfsDaemon cluster.spec.resources)
    priorityClassName :=
      if settings.priorityClassName = "" then none else some settings.priorityClassName }

/-- The Service that a cluster is to have: it leads to the pods of the servers of the parent, and is
headless where these are on the network of their hosts. -/
def desiredService (cluster : Cluster) (owner : OwnerReference) : ServiceBody where
  spec := some {
    ports := some [{
      name := some "nfs"
      port := nfsPort
      protocol := some "TCP"
      targetPort := some (.number nfsPort) }]
    selector :=
      some (.ofList [("app", nfsAppLabel), ("ceph_nfs", deriveName owner.name Kind.exporter.tag)])
    sessionAffinity := some "ClientIP"
    clusterIP := if cluster.hostNetwork then some headlessAddress else none }

def desiredBody (cluster : Cluster) (owner : OwnerReference) (settings : ControllerSettings) :
    (kind : Kind) → kind.Body
  | .blockPool => desiredPool cluster settings
  | .exporter => desiredExporter cluster settings
  | .service => desiredService cluster owner

/-- Whether a cluster is to have an object of a kind: all of them, if NFS is exported. -/
def Kind.shouldExist (_ : Kind) (cluster : Cluster) : Bool := cluster.nfsEnabled

def Kind.nameFor (kind : Kind) (cluster : Cluster) : Except OperatorError String :=
  match cluster.metadata.name with
  | some parent => .ok (deriveName parent kind.tag)
  | none => .error (.missingKey "Expected StorageCluster to have metadata.name")

def Cluster.namespaceOf (cluster : Cluster) : Except OperatorError String :=
  match cluster.metadata.namespace with
  | some «namespace» => .ok «namespace»
  | none => .error (.missingKey "Expected StorageCluster to be namespaced via metadata.namespace")

/-- The object of a kind that a cluster is to have. The cluster must have a name, a namespace and an
identity, and the first of them that is missing is reported. -/
def Kind.desired (kind : Kind) (cluster : Cluster) (scheme : OwnerScheme) (settings : Settings) :
    Except OperatorError (Managed kind) := do
  let name ← kind.nameFor cluster
  let «namespace» ← cluster.namespaceOf
  let owner ← scheme.controllerRef cluster.metadata
  .ok ⟨managedMetadata name «namespace» owner kind.tag,
    desiredBody cluster owner settings.controller kind⟩

end CephExport
