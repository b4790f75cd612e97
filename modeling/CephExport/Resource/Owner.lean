import CephExport.Error
import CephExport.Kube.Metadata

/-!
Who owns a managed resource, and the labels that tell so.
-/

set_option autoImplicit false
set_option relaxedAutoImplicit false

namespace CephExport

/-- The type of the objects that own managed resources. -/
structure OwnerScheme where
  apiVersion : String
  kind : String
  deriving DecidableEq

namespace OwnerScheme

/-- The reference to a parent as the one owner that controls a resource. The parent must have been
stored, so that it has a name and an identity. -/
def controllerRef (scheme : OwnerScheme) (parent : ObjectMeta) :
    Except OperatorError OwnerReference :=
  match parent.name, parent.uid with
  | none, _ => .error (.missingKey "Expected parent to have metadata.name")
  | some _, none => .error (.missingKey "Expected parent to have metadata.uid")
  | some name, some uid =>
    .ok { apiVersion := scheme.apiVersion, kind := scheme.kind, name, uid, controller := some true,
          blockOwnerDeletion := some true }

end OwnerScheme

def managedByLabel : String := "app.kubernetes.io/managed-by"

def partOfLabel : String := "app.kubernetes.io/part-of"

def componentLabel : String := "app.kubernetes.io/component"

def operatorName : String := "nfs-operator"

def managedLabels (parent component : String) : KeyMap String :=
  .ofList [(managedByLabel, operatorName), (partOfLabel, parent), (componentLabel, component)]

/-- Whether a wanted label is missing from the live ones or has another value there. -/
def labelsDrifted (live desired : KeyMap String) : Bool :=
  desired.any fun key value => live.get? key != some value

def managedMetadata (name «namespace» : String) (owner : OwnerReference) (component : String) :
    ObjectMeta where
  name := some name
  «namespace» := some «namespace»
  labels := some (managedLabels owner.name component)
  ownerReferences := some [owner]

end CephExport
