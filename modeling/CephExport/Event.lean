import CephExport.Cluster.Basic
import CephExport.Error
import CephExport.Logging.Level

/-!
The events that a pass reports, and how they are written to the log.
-/

set_option autoImplicit false
set_option relaxedAutoImplicit false

namespace CephExport

inductive ResourceEvent
  | creating
  | updating
  | inSync
  | pendingDeletion
  | notFound
  | deleting
  | alreadyDeleted
  | deleted
  | waiting
  deriving DecidableEq

namespace ResourceEvent

def name : ResourceEvent → String
  | creating => "CreatingResource"
  | updating => "UpdatingResource"
  | inSync => "ResourceInSync"
  | pendingDeletion => "ResourcePendingDeletion"
  | notFound => "ResourceNotFound"
  | deleting => "DeletingResource"
  | alreadyDeleted => "ResourceAlreadyDeleted"
  | deleted => "ResourceDeleted"
  | waiting => "WaitingForDeletion"

def level : ResourceEvent → Level
  | inSync | notFound | alreadyDeleted => .debug
  | pendingDeletion => .warn
  | creating | updating | deleting | deleted | waiting => .info

end ResourceEvent

inductive Event
  | resource (what : ResourceEvent) (kind name «namespace» : String)
  /-- A Service is headless and should not be, or the other way round. -/
  | headlessMismatch (name «namespace» : String) (headless : Bool)
  | updatingStatus (name «namespace» : String) (phase : Phase)
  | reconciled (name «namespace» : String) (nfsEnabled : Bool)
  | cleanedUp (name «namespace» : String)
  | passWaiting (error : OperatorError)
  | passFailed (error : OperatorError)
  deriving DecidableEq

inductive FieldValue
  /-- A text, which is quoted. -/
  | text (value : String)
  /-- A text that is written as it is; none where the operator has no words for it. -/
  | plain (value : Option String)
  | flag (value : Bool)

namespace Event

def level : Event → Level
  | resource what _ _ _ => what.level
  | headlessMismatch .. => .warn
  | updatingStatus .. | reconciled .. | cleanedUp .. => .info
  | passWaiting _ => .warn
  | passFailed _ => .error

def fields : Event → List (String × FieldValue)
  | resource what kind name «namespace» =>
    [("event", .text what.name), ("kind", .text kind), ("name", .text name),
      ("namespace", .text «namespace»)]
  | headlessMismatch name «namespace» headless =>
    [("event", .text "ServiceHeadlessMismatch"), ("name", .text name),
      ("namespace", .text «namespace»), ("headless", .flag headless)]
  | updatingStatus name «namespace» phase =>
    [("event", .text "UpdatingStorageClusterStatus"), ("name", .text name),
      ("namespace", .text «namespace»), ("phase", .text phase.text)]
  | reconciled name «namespace» nfsEnabled =>
    [("event", .text "StorageClusterReconciled"), ("name", .text name),
      ("namespace", .text «namespace»), ("nfs_enabled", .flag nfsEnabled)]
  | cleanedUp name «namespace» =>
    [("event", .text "StorageClusterCleanedUp"), ("name", .text name),
      ("namespace", .text «namespace»)]
  | passWaiting error => [("event", .text "WaitingForDeletion"), ("error", .plain error.message?)]
  | passFailed error =>
    [("event", .text "Error"), ("error", .plain error.message?),
      ("retryable", .flag error.isRetryable)]

def toJson (event : Event) : Json :=
  .ofMembers (("level", .string event.level.name) :: event.fields.filterMap fun (name, value) =>
    match value with
    | .text text => some (name, .string text)
    | .plain text => text.map fun text => (name, .string text)
    | .flag flag => some (name, .bool flag))

def fieldText? (name : String) : FieldValue → Option String
  | .text text => some (name ++ "=" ++ Text.quoted text)
  | .plain text => text.map fun text => name ++ "=" ++ text
  | .flag flag => some (name ++ "=" ++ (if flag then "true" else "false"))

/-- The event as a line of the log: its fields, one blank between them. -/
def logText (event : Event) : String :=
  String.intercalate " " (event.fields.filterMap fun (name, value) => fieldText? name value)

end Event

end CephExport
