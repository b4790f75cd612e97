import CephExport.Reconcile.Resource

/-!
What the wanted objects of a cluster are made of. Whatever else two clusters and two settings differ
in, if they agree on this the same objects are wanted for both, and at the same places.
-/

set_option autoImplicit false
set_option relaxedAutoImplicit false

namespace CephExport

namespace Cluster

/-- The placement that is declared for a daemon: its own, or else the one for all daemons. -/
def declaredPlacement (cluster : Cluster) (daemon : String) : Option Placement :=
  (cluster.spec.placement.get? daemon).or (cluster.spec.placement.get? allDaemons)

structure SamePlace (cluster other : Cluster) : Prop where
  name : cluster.metadata.name = other.metadata.name
  «namespace» : cluster.metadata.namespace = other.metadata.namespace

/-- Two clusters agree on all that their resources are made of. -/
structure WantsAlike (cluster other : Cluster) : Prop extends SamePlace cluster other where
  uid : cluster.metadata.uid = other.metadata.uid
  nfsEnabled : cluster.nfsEnabled = other.nfsEnabled
  hostNetwork : cluster.hostNetwork = other.hostNetwork
  failureDomain : cluster.spec.failureDomain = other.spec.failureDomain
  replica : cluster.spec.replica = other.spec.replica
  resources : cluster.spec.resources.get? nfsDaemon = other.spec.resources.get? nfsDaemon
  placement : cluster.declaredPlacement nfsDaemon = other.declaredPlacement nfsDaemon

theorem SamePlace.wantsAlike {cluster other : Cluster} (same : cluster.SamePlace other)
    (uid : cluster.metadata.uid = other.metadata.uid) (spec : cluster.spec = other.spec) :
    cluster.WantsAlike other where
  toSamePlace := same
  uid := uid
  nfsEnabled := by rw [Cluster.nfsEnabled, Cluster.nfsEnabled, spec]
  hostNetwork := by rw [Cluster.hostNetwork, Cluster.hostNetwork, spec]
  failureDomain := by rw [spec]
  replica := by rw [spec]
  resources := by rw [spec]
  placement := by rw [declaredPlacement, declaredPlacement, spec]

theorem placementOf_eq (cluster : Cluster) (daemon : String) (settings : ControllerSettings) :
    placementOf cluster daemon settings =
      (cluster.declaredPlacement daemon).getD (defaultPlacement settings) := by
  rw [placementOf, declaredPlacement]
  cases cluster.spec.placement.get? daemon <;> rfl

end Cluster

/-- Two settings agree on all that the resources of clusters are made of. -/
structure ControllerSettings.FillsAlike (settings other : ControllerSettings) : Prop where
  priorityClassName : settings.priorityClassName = other.priorityClassName
  storageNodeLabel : settings.storageNodeLabel = other.storageNodeLabel
  storageNodeTaint : settings.storageNodeTaint = other.storageNodeTaint
  defaultFailureDomain : settings.defaultFailureDomain = other.defaultFailureDomain
  defaultReplicaSize : settings.defaultReplicaSize = other.defaultReplicaSize

theorem ControllerSettings.FillsAlike.refl (settings : ControllerSettings) :
    settings.FillsAlike settings :=
  ⟨rfl, rfl, rfl, rfl, rfl⟩

namespace Kind

variable {cluster other : Cluster} {settings settings' : ControllerSettings}

theorem keyFor_eq (kind : Kind) (same : cluster.SamePlace other) :
    kind.keyFor cluster = kind.keyFor other := by
  simp only [keyFor, nameFor, Cluster.namespaceOf, same.name, same.namespace]

theorem desiredPool_eq (alike : cluster.WantsAlike other) (fills : settings.FillsAlike settings') :
    desiredPool cluster settings = desiredPool other settings' := by
  simp only [desiredPool, alike.failureDomain, alike.replica, fills.defaultFailureDomain,
    fills.defaultReplicaSize]

theorem desiredExporter_eq (alike : cluster.WantsAlike other)
    (fills : settings.FillsAlike settings') :
    desiredExporter cluster settings = desiredExporter other settings' := by
  have placement :
      placementOf cluster nfsDaemon settings = placementOf other nfsDaemon settings' := by
    rw [Cluster.placementOf_eq, Cluster.placementOf_eq, alike.placement, defaultPlacement,
      defaultPlacement, fills.storageNodeLabel, fills.storageNodeTaint]
  have resources : daemonResources nfsDaemon cluster.spec.resources =
      daemonResources nfsDaemon other.spec.resources := by
    rw [daemonResources, daemonResources, alike.resources]
  rw [desiredExporter, desiredExporter, placement, resources, fills.priorityClassName]

theorem desiredService_eq (alike : cluster.WantsAlike other) (owner : OwnerReference) :
    desiredService cluster owner = desiredService other owner := by
  rw [desiredService, desiredService, alike.hostNetwork]

theorem desiredBody_eq (kind : Kind) (alike : cluster.WantsAlike other)
    (fills : settings.FillsAlike settings') (owner : OwnerReference) :
    desiredBody cluster owner settings kind = desiredBody other owner settings' kind := by
  cases kind with
  | blockPool => exact desiredPool_eq alike fills
  | exporter => exact desiredExporter_eq alike fills
  | service => exact desiredService_eq alike owner

theorem desired_eq (kind : Kind) {settings settings' : Settings} (alike : cluster.WantsAlike other)
    (fills : settings.controller.FillsAlike settings'.controller) (scheme : OwnerScheme) :
    kind.desired cluster scheme settings = kind.desired other scheme settings' := by
  have owner : scheme.controllerRef cluster.metadata = scheme.controllerRef other.metadata := by
    rw [OwnerScheme.controllerRef, OwnerScheme.controllerRef, alike.name, alike.uid]
  simp only [desired, nameFor, Cluster.namespaceOf, alike.name, alike.namespace, owner,
    desiredBody_eq kind alike fills]

end Kind

end CephExport
