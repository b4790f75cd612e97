import CephExport.Json.Codec

/-!
The settings of the operator and their defaults.
-/

set_option autoImplicit false
set_option relaxedAutoImplicit false

namespace CephExport

structure Duration where
  secs : UInt64
  nanos : UInt32
  deriving DecidableEq

namespace Duration

instance : Inhabited Duration := ⟨⟨0, 0⟩⟩

def ofSecs (secs : UInt64) : Duration := ⟨secs, 0⟩

def shorter (a b : Duration) : Bool :=
  a.secs < b.secs || (a.secs == b.secs && a.nanos < b.nanos)

def min (a b : Duration) : Duration := if b.shorter a then b else a

instance : Codec Duration where
  encode d := .object (member "nanos" d.nanos ++ member "secs" d.secs)
  decode? json := do
    let m ← json.members?
    let secs ← (m.lookup "secs").bind decode?
    let nanos : UInt32 ← (m.lookup "nanos").bind decode?
    if nanos < 1000000000 then some { secs, nanos } else none

end Duration

structure ControllerSettings where
  requeueIntervalSecs : UInt64 := 30
  errorRequeueSecs : UInt64 := 30
  /-- Seconds before a resource that is being deleted is looked at again. -/
  deletionPollSecs : UInt64 := 5
  /-- Seconds before the next pass after a resource that should exist was found in deletion. -/
  pendingDeletionRequeueSecs : UInt64 := 10
  /-- The priority class of the NFS servers; none where it is empty. -/
  priorityClassName : String := "system-cluster-critical"
  storageNodeLabel : String := "nfs-operator.io/storage-node"
  storageNodeTaint : String := "node.nfs-operator.io/storage"
  /-- The failure domain of pools whose cluster names none. -/
  defaultFailureDomain : String := "host"
  defaultReplicaSize : UInt32 := 3
  deriving DecidableEq

namespace ControllerSettings

instance : Inhabited ControllerSettings := ⟨{}⟩

/-- In a given section a setting that is not written is zero or empty, and not its default. -/
instance : Codec ControllerSettings where
  encode s := .object (member "default_failure_domain" s.defaultFailureDomain ++
    member "default_replica_size" s.defaultReplicaSize ++
    member "deletion_poll_secs" s.deletionPollSecs ++
    member "error_requeue_secs" s.errorRequeueSecs ++
    member "pending_deletion_requeue_secs" s.pendingDeletionRequeueSecs ++
    member "priority_class_name" s.priorityClassName ++
    member "requeue_interval_secs" s.requeueIntervalSecs ++ member "storage_node_label"
      s.storageNodeLabel ++ member "storage_node_taint" s.storageNodeTaint)
  decode? json := do
    let r ← Record.of? ["requeue_interval_secs", "error_requeue_secs", "deletion_poll_secs",
      "pending_deletion_requeue_secs", "priority_class_name", "storage_node_label",
      "storage_node_taint", "default_failure_domain", "default_replica_size"] json
    let requeueIntervalSecs ← r.withDefault? 0 "requeue_interval_secs" 0
    let errorRequeueSecs ← r.withDefault? 1 "error_requeue_secs" 0
    let deletionPollSecs ← r.withDefault? 2 "deletion_poll_secs" 0
    let pendingDeletionRequeueSecs ← r.withDefault? 3 "pending_deletion_requeue_secs" 0
    let priorityClassName ← r.withDefault? 4 "priority_class_name" ""
    let storageNodeLabel ← r.withDefault? 5 "storage_node_label" ""
    let storageNodeTaint ← r.withDefault? 6 "storage_node_taint" ""
    let defaultFailureDomain ← r.withDefault? 7 "default_failure_domain" ""
    let defaultReplicaSize ← r.withDefault? 8 "default_replica_size" 0
    some { requeueIntervalSecs, errorRequeueSecs, deletionPollSecs, pendingDeletionRequeueSecs,
           priorityClassName, storageNodeLabel, storageNodeTaint, defaultFailureDomain,
           defaultReplicaSize }

def requeueInterval (s : ControllerSettings) : Duration := .ofSecs s.requeueIntervalSecs

def errorRequeue (s : ControllerSettings) : Duration := .ofSecs s.errorRequeueSecs

/-- The time before a resource that is being deleted is looked at again. -/
def deletionPoll (s : ControllerSettings) : Duration := .ofSecs s.deletionPollSecs

/-- The time before the next pass after a resource that should exist was found in deletion. -/
def pendingDeletionRequeue (s : ControllerSettings) : Duration :=
  .ofSecs s.pendingDeletionRequeueSecs

end ControllerSettings

structure Settings where
  controller : ControllerSettings := {}
  deriving DecidableEq

instance : Inhabited Settings := ⟨{}⟩

instance : Codec Settings where
  encode s := .object (member "controller" s.controller)
  decode? json := do
    let r ← Record.of? ["controller"] json
    let controller ← r.withDefault? 0 "controller" {}
    some { controller }

end CephExport
