import CephExport.Reconcile.Resource

/-!
The passes over all resources of a cluster. Resources are created in the order in which they depend
on each other and deleted in the opposite order; those that are not wanted go before any is made.
A pass ends with the first one that fails.
-/

set_option autoImplicit false
set_option relaxedAutoImplicit false

namespace CephExport

/-- What keeps one resource of a cluster. -/
structure ResourceManager where
  kindName : String
  shouldExist : Cluster → Bool
  ensureCreated : Cluster → Pass RequeueHint
  ensureDeleted : Cluster → Pass RequeueHint

def Kind.manager (kind : Kind) (policy : Policy) : ResourceManager where
  kindName := kind.name
  shouldExist := kind.shouldExist
  ensureCreated := kind.ensureCreated policy
  ensureDeleted := kind.ensureDeleted

namespace Orchestrator

/-- Run passes one after another and merge their hints into one. -/
def inOrder (hint : RequeueHint) : List (Pass RequeueHint) → Pass RequeueHint
  | [] => pure hint
  | pass :: rest => do
    let next ← pass
    inOrder (hint.merge next) rest

/-- The passes that bring a cluster's resources into their wanted form: those that are not wanted
are removed, from the last manager to the first, and then the others created, from the first on. -/
def creationPlan (managers : List ResourceManager) (cluster : Cluster) : List (Pass RequeueHint) :=
  ((managers.reverse.filter fun manager => !manager.shouldExist cluster).map
    (·.ensureDeleted cluster)) ++
    ((managers.filter fun manager => manager.shouldExist cluster).map (·.ensureCreated cluster))

/-- The passes that remove a cluster's resources, from the last manager to the first. -/
def deletionPlan (managers : List ResourceManager) (cluster : Cluster) : List (Pass RequeueHint) :=
  managers.reverse.map (·.ensureDeleted cluster)

/-- Bring all resources of a cluster into their wanted form. -/
def ensureCreated (managers : List ResourceManager) (cluster : Cluster) : Pass RequeueHint :=
  inOrder .done (creationPlan managers cluster)

def ensureDeleted (managers : List ResourceManager) (cluster : Cluster) : Pass RequeueHint :=
  inOrder .done (deletionPlan managers cluster)

/-- The managers of an NFS export, each resource after those that it depends on. -/
def nfs (policy : Policy) : List ResourceManager :=
  [Kind.blockPool.manager policy, Kind.exporter.manager policy, Kind.service.manager policy]

end Orchestrator

end CephExport
