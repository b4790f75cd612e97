import CephExport.Reconcile.Orchestrator

/-!
The pass over a storage cluster. A finalizer keeps the cluster until all its resources are gone; the
phase in its status tells how far the operator is.
-/

set_option autoImplicit false
set_option relaxedAutoImplicit false

namespace CephExport

namespace V1alpha1.Cluster

def scheme : OwnerScheme := ⟨apiVersion, "StorageCluster"⟩

end V1alpha1.Cluster

/-- The phase of a cluster must be recorded unless its status shows it already. -/
def needsPhase (status : Option ClusterStatus) (phase : Phase) : Bool :=
  status.all fun status => status.phase != phase.text

namespace Reconcile

/-- A cluster as it was when a pass over it began, and its namespace. -/
structure Subject where
  served : V1alpha1.Cluster
  «namespace» : String

namespace Subject

def cluster (subject : Subject) : Cluster := subject.served.toCluster

def name (subject : Subject) : String := subject.served.metadata.displayName

def key (subject : Subject) : ObjectKey := ⟨subject.namespace, subject.name⟩

end Subject

/-- Record a phase and report it first. -/
def announcePhase (subject : Subject) (phase : Phase) : Pass Unit := do
  Pass.log (.updatingStatus subject.name subject.namespace phase)
  Pass.perform (.setPhase subject.key phase)

/-- Bring the resources of a cluster in line with it. -/
def apply (subject : Subject) (settings : Settings) (managers : List ResourceManager) :
    Pass Action := do
  let cluster := subject.cluster
  if cluster.status.isNone then announcePhase subject .progressing
  let hint ← Orchestrator.ensureCreated managers cluster
  if needsPhase cluster.status .ready then announcePhase subject .ready
  Pass.log (.reconciled subject.name subject.namespace cluster.nfsEnabled)
  pure (hint.toAction settings.controller.requeueInterval)

/-- Remove the resources of a cluster that is being deleted. -/
def cleanUp (subject : Subject) (managers : List ResourceManager) : Pass Action := do
  let cluster := subject.cluster
  if needsPhase cluster.status .deleting then Pass.perform (.setPhase subject.key .deleting)
  let _ ← Orchestrator.ensureDeleted managers cluster
  Pass.log (.cleanedUp subject.name subject.namespace)
  pure .awaitChange

def exchangeText : OperatorError → String
  | .api failure => failure.text
  | error => error.message?.getD ""

/-- Patch the finalizers of a cluster; a failure is one of the finalizer. -/
def patchFinalizers (what : String) (call : Call) : Pass Unit := do
  match ← Pass.attempt call with
  | .ok _ => pure ()
  | .error error =>
    Pass.fail (.finalizer ("failed to " ++ what ++ " finalizer: " ++ exchangeText error))

/-- Where a patch of the finalizers goes; the cluster must have a name. -/
def finalizerKey (subject : Subject) : Pass ObjectKey :=
  match subject.served.metadata.name with
  | some name => pure ⟨subject.namespace, name⟩
  | none => Pass.fail (.finalizer "object has no name")

/-- Run a pass over a cluster under its finalizer: resources are only made once it is there, and it
is only removed once they are gone. -/
def underFinalizer (subject : Subject) (applied cleanedUp : Pass Action) : Pass Action :=
  let present := subject.served.metadata.finalizers.getD []
  match present.findIdx? (· == clusterFinalizer), subject.served.metadata.isDeleting with
  | some _, false => applied
  | some position, true => do
    let key ← finalizerKey subject
    let action ← cleanedUp
    patchFinalizers "remove" (.removeFinalizer key position)
    pure action
  | none, false => do
    let key ← finalizerKey subject
    patchFinalizers "add" (.addFinalizer key present)
    pure .awaitChange
  | none, true => pure .awaitChange

/-- The pass over a cluster. It needs the namespace of the cluster and the operator's settings. -/
def cluster (served : V1alpha1.Cluster) (settings : Option Settings) : Pass Action :=
  match served.metadata.namespace, settings with
  | none, _ =>
    Pass.fail (.missingKey "Expected StorageCluster to be namespaced via metadata.namespace")
  | some _, none => Pass.fail .missingState
  | some «namespace», some settings =>
    let subject : Subject := ⟨served, «namespace»⟩
    let managers := Orchestrator.nfs ⟨V1alpha1.Cluster.scheme, settings⟩
    underFinalizer subject (apply subject settings managers) (cleanUp subject managers)

/-- What follows a failed pass, and the event that reports it. Without settings the defaults
hold. -/
def errorPolicy (error : OperatorError) (settings : Option Settings) : Event × Action :=
  let controller := (settings.getD {}).controller
  (if error.isStillDeleting then .passWaiting error else .passFailed error,
    (error.requeueHint controller).toAction controller.errorRequeue)

end Reconcile

end CephExport
