import CephExport.Json.Parser
import CephExport.Time.Timestamp

/-!
The metadata that every Kubernetes object carries.
-/

set_option autoImplicit false
set_option relaxedAutoImplicit false

namespace CephExport

structure OwnerReference where
  apiVersion : String
  kind : String
  name : String
  uid : String
  controller : Option Bool
  blockOwnerDeletion : Option Bool
  deriving DecidableEq

instance : Codec OwnerReference where
  encode r := .object (member "apiVersion" r.apiVersion ++
    memberSome "blockOwnerDeletion" r.blockOwnerDeletion ++ memberSome "controller" r.controller ++
    member "kind" r.kind ++ member "name" r.name ++ member "uid" r.uid)
  decode? json := do
    let m ← json.members?
    let apiVersion ← m.orZero? "apiVersion" ""
    let kind ← m.orZero? "kind" ""
    let name ← m.orZero? "name" ""
    let uid ← m.orZero? "uid" ""
    let controller ← m.optional? "controller"
    let blockOwnerDeletion ← m.optional? "blockOwnerDeletion"
    some { apiVersion, kind, name, uid, controller, blockOwnerDeletion }

/-- The fields that a manager is known to have set: any JSON value but null. In the document of an
object it stands four values deep, so that it may nest 123 deep itself. -/
structure FieldSet where
  value : Json
  settled : ∃ json : Json, json.settled? 123 = some value
  given : value.isNull = false

instance : Codec FieldSet where
  encode fields := fields.value
  decode? json :=
    match settled : json.settled? 123 with
    | none => none
    | some value =>
      if given : value.isNull = false then some ⟨value, ⟨json, settled⟩, given⟩ else none

/-- Which fields of an object a manager has set, and when. -/
structure ManagedFieldsEntry where
  apiVersion : Option String := none
  fieldsType : Option String := none
  fieldsV1 : Option FieldSet := none
  manager : Option String := none
  operation : Option String := none
  subresource : Option String := none
  time : Option MetaTime := none

instance : Codec ManagedFieldsEntry where
  encode e := .object (memberSome "apiVersion" e.apiVersion ++
    memberSome "fieldsType" e.fieldsType ++ memberSome "fieldsV1" e.fieldsV1 ++
    memberSome "manager" e.manager ++ memberSome "operation" e.operation ++
    memberSome "subresource" e.subresource ++ memberSome "time" e.time)
  decode? json := do
    let m ← json.members?
    let apiVersion ← m.optional? "apiVersion"
    let fieldsType ← m.optional? "fieldsType"
    let fieldsV1 ← m.optional? "fieldsV1"
    let manager ← m.optional? "manager"
    let operation ← m.optional? "operation"
    let subresource ← m.optional? "subresource"
    let time ← m.optional? "time"
    some { apiVersion, fieldsType, fieldsV1, manager, operation, subresource, time }

structure ObjectMeta where
  annotations : Option (KeyMap String) := none
  creationTimestamp : Option MetaTime := none
  deletionGracePeriodSeconds : Option Int64 := none
  deletionTimestamp : Option MetaTime := none
  finalizers : Option (List String) := none
  generateName : Option String := none
  generation : Option Int64 := none
  labels : Option (KeyMap String) := none
  managedFields : Option (List ManagedFieldsEntry) := none
  name : Option String := none
  «namespace» : Option String := none
  ownerReferences : Option (List OwnerReference) := none
  resourceVersion : Option String := none
  selfLink : Option String := none
  uid : Option String := none

namespace ObjectMeta

instance : Inhabited ObjectMeta := ⟨{}⟩

instance : Codec ObjectMeta where
  encode m := .object (memberSome "annotations" m.annotations ++
    memberSome "creationTimestamp" m.creationTimestamp ++
    memberSome "deletionGracePeriodSeconds" m.deletionGracePeriodSeconds ++
    memberSome "deletionTimestamp" m.deletionTimestamp ++ memberSome "finalizers" m.finalizers ++
    memberSome "generateName" m.generateName ++ memberSome "generation" m.generation ++
    memberSome "labels" m.labels ++ memberSome "managedFields" m.managedFields ++
    memberSome "name" m.name ++ memberSome "namespace" m.namespace ++
    memberSome "ownerReferences" m.ownerReferences ++ memberSome "resourceVersion"
      m.resourceVersion ++ memberSome "selfLink" m.selfLink ++ memberSome "uid" m.uid)
  decode? json := do
    let m ← json.members?
    let annotations ← m.optional? "annotations"
    let creationTimestamp ← m.optional? "creationTimestamp"
    let deletionGracePeriodSeconds ← m.optional? "deletionGracePeriodSeconds"
    let deletionTimestamp ← m.optional? "deletionTimestamp"
    let finalizers ← m.optional? "finalizers"
    let generateName ← m.optional? "generateName"
    let generation ← m.optional? "generation"
    let labels ← m.optional? "labels"
    let managedFields ← m.optional? "managedFields"
    let name ← m.optional? "name"
    let «namespace» ← m.optional? "namespace"
    let ownerReferences ← m.optional? "ownerReferences"
    let resourceVersion ← m.optional? "resourceVersion"
    let selfLink ← m.optional? "selfLink"
    let uid ← m.optional? "uid"
    some { annotations, creationTimestamp, deletionGracePeriodSeconds,
           deletionTimestamp, finalizers, generateName, generation, labels, managedFields, name,
           «namespace», ownerReferences, resourceVersion, selfLink, uid }

/-- The name of the object, or the stem of the name that the server is to make up, or no text. -/
def displayName (m : ObjectMeta) : String := m.name.getD (m.generateName.getD "")

/-- The labels, none being an empty map. -/
def labelMap (m : ObjectMeta) : KeyMap String := m.labels.getD .empty

/-- The owners, none being an empty list. -/
def owners (m : ObjectMeta) : List OwnerReference := m.ownerReferences.getD []

def isDeleting (m : ObjectMeta) : Bool := m.deletionTimestamp.isSome

end ObjectMeta

end CephExport
