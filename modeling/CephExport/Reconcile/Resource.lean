import CephExport.Reconcile.Pass
import CephExport.Resource.Drift

/-!
The passes that keep one resource of a cluster: one brings it into its wanted form, the other
removes it. Each changes the resource at most once. A deletion is not waited for: it ends the pass
with an error, so that a later one looks again.
-/

set_option autoImplicit false
set_option relaxedAutoImplicit false

namespace CephExport

/-- What the passes over a cluster's resources go by besides the cluster. -/
structure Policy where
  scheme : OwnerScheme
  settings : Settings

namespace Kind

def keyFor (kind : Kind) (cluster : Cluster) : Except OperatorError ObjectKey := do
  let name ← kind.nameFor cluster
  let «namespace» ← cluster.namespaceOf
  .ok ⟨«namespace», name⟩

def event (kind : Kind) (key : ObjectKey) (what : ResourceEvent) : Event :=
  .resource what kind.name key.name key.namespace

/-- Read a resource back after its deletion: only its absence ends the pass well. -/
def confirmDeleted (kind : Kind) (key : ObjectKey) : Pass RequeueHint := do
  match ← Pass.perform (.get kind key) with
  | none =>
    Pass.log (kind.event key .deleted)
    pure .done
  | some _ =>
    Pass.log (kind.event key .waiting)
    Pass.fail (.stillDeleting kind.name key.name)

/-- Delete a resource that is not yet marked for deletion. One that turns out to be gone already is
as good as deleted. -/
def requestDeletion (kind : Kind) (key : ObjectKey) : Pass Unit := do
  Pass.log (kind.event key .deleting)
  match ← Pass.attempt (.delete kind key) with
  | .ok _ => pure ()
  | .error error =>
    if error.isNotFound then Pass.log (kind.event key .alreadyDeleted) else Pass.fail error

/-- Make sure that the resource of a kind at a place is gone. -/
def deleteAt (kind : Kind) (key : ObjectKey) : Pass RequeueHint := do
  match ← Pass.perform (.get kind key) with
  | none =>
    Pass.log (kind.event key .notFound)
    pure .done
  | some live =>
    if live.metadata.isDeleting then kind.confirmDeleted key
    else do
      kind.requestDeletion key
      kind.confirmDeleted key

/-- Make sure that the resource of a kind is gone. -/
def ensureDeleted (kind : Kind) (cluster : Cluster) : Pass RequeueHint := do
  let key ← Pass.ofExcept (kind.keyFor cluster)
  kind.deleteAt key

/-- Bring a live resource in line with the wanted one, if it differs. -/
def update (kind : Kind) (key : ObjectKey) (live desired : Managed kind) : Pass RequeueHint := do
  Pass.logAll (live.driftNotices desired)
  if live.drifted desired then do
    Pass.log (kind.event key .updating)
    let _ ← Pass.perform (.replace kind key (live.merge desired))
    pure .done
  else do
    Pass.log (kind.event key .inSync)
    pure .done

/-- Make sure that the wanted object is in the store at a place. -/
def createAt (kind : Kind) (key : ObjectKey) (desired : Managed kind) : Pass RequeueHint := do
  match ← Pass.perform (.get kind key) with
  | none =>
    Pass.log (kind.event key .creating)
    let _ ← Pass.perform (.create kind key.namespace desired)
    pure .done
  | some live =>
    if live.metadata.isDeleting then do
      Pass.log (kind.event key .pendingDeletion)
      Pass.fail (.pendingDeletion kind.name key.name)
    else kind.update key live desired

/-- Make sure that the resource of a kind is as the cluster wants it, which may be gone. -/
def ensureCreated (kind : Kind) (policy : Policy) (cluster : Cluster) : Pass RequeueHint :=
  if kind.shouldExist cluster then do
    let desired ← Pass.ofExcept (kind.desired cluster policy.scheme policy.settings)
    let «namespace» ← Pass.ofExcept cluster.namespaceOf
    kind.createAt ⟨«namespace», desired.metadata.displayName⟩ desired
  else kind.ensureDeleted cluster

end Kind

end CephExport
