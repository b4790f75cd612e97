import CephExport.Settings.Basic
import CephExport.Settings.Value

/-!
Settings from the layers laid over one another: each field takes the value under its key, which must
have the field's type and range. A section may also list the values of its fields in order.
-/

set_option autoImplicit false
set_option relaxedAutoImplicit false

namespace CephExport

inductive Settings.Expectation
  | word32
  | word64
  | text
  | controller
  deriving DecidableEq

def Settings.Expectation.name : Settings.Expectation → String
  | word32 => "u32"
  | word64 => "u64"
  | text => "a string"
  | controller => "struct ControllerConfig"

inductive SettingsError
  | unreadable
  /-- A text in quotes in the environment is cut within a character. -/
  | splitCharacter
  | mistyped (found : Settings.Value) (expected : Settings.Expectation) (path : List String)
  | outOfRange (found : Settings.Value) (expected : Settings.Expectation) (path : List String)

/-- The text of an error; only an error about a value at a path has one. -/
def SettingsError.message? : SettingsError → Option String
  | unreadable => none
  | splitCharacter => none
  | mistyped found expected _ =>
    some ("invalid type: found " ++ found.described ++ ", expected " ++ expected.name)
  | outOfRange found expected _ =>
    some ("invalid value " ++ found.described ++ ", expected " ++ expected.name)

def SettingsError.path : SettingsError → List String
  | unreadable => []
  | splitCharacter => []
  | mistyped _ _ path => path
  | outOfRange _ _ path => path

namespace Settings

namespace Value

def below? (limit : Nat) (expected : Expectation) (path : List String) (value : Value) :
    Except SettingsError Nat :=
  match value.int? with
  | none => .error (.mistyped value expected path)
  | some n =>
    if 0 ≤ n ∧ n < limit then .ok n.toNat else .error (.outOfRange value expected path)

def word32? (path : List String) (value : Value) : Except SettingsError UInt32 :=
  (value.below? 0x100000000 .word32 path).map UInt32.ofNat

def word64? (path : List String) (value : Value) : Except SettingsError UInt64 :=
  (value.below? 0x10000000000000000 .word64 path).map UInt64.ofNat

def text? (path : List String) (value : Value) : Except SettingsError String :=
  match value with
  | .text read => .ok read
  | _ => .error (.mistyped value .text path)

end Value

def controllerKey : String := "controller"

/-- The keys of the fields of the controller settings, in the order of a list of their values. -/
def fieldKeys : List String :=
  ["requeue_interval_secs", "error_requeue_secs", "deletion_poll_secs",
    "pending_deletion_requeue_secs", "priority_class_name", "storage_node_label",
    "storage_node_taint", "default_failure_domain", "default_replica_size"]

def blank : ControllerSettings :=
  { requeueIntervalSecs := 0, errorRequeueSecs := 0, deletionPollSecs := 0,
    pendingDeletionRequeueSecs := 0, priorityClassName := "", storageNodeLabel := "",
    storageNodeTaint := "", defaultFailureDomain := "", defaultReplicaSize := 0 }

/-- Set the field of a key; other keys are ignored. `place` is what the path of an error says. -/
def setField (place : String) (settings : ControllerSettings) (key : String) (value : Value) :
    Except SettingsError ControllerSettings :=
  let path := [controllerKey, place]
  match key with
  | "requeue_interval_secs" =>
    (value.word64? path).map fun n => { settings with requeueIntervalSecs := n }
  | "error_requeue_secs" =>
    (value.word64? path).map fun n => { settings with errorRequeueSecs := n }
  | "deletion_poll_secs" =>
    (value.word64? path).map fun n => { settings with deletionPollSecs := n }
  | "pending_deletion_requeue_secs" =>
    (value.word64? path).map fun n => { settings with pendingDeletionRequeueSecs := n }
  | "priority_class_name" =>
    (value.text? path).map fun s => { settings with priorityClassName := s }
  | "storage_node_label" => (value.text? path).map fun s => { settings with storageNodeLabel := s }
  | "storage_node_taint" => (value.text? path).map fun s => { settings with storageNodeTaint := s }
  | "default_failure_domain" =>
    (value.text? path).map fun s => { settings with defaultFailureDomain := s }
  | "default_replica_size" =>
    (value.word32? path).map fun n => { settings with defaultReplicaSize := n }
  | _ => .ok settings

def setMembers (settings : ControllerSettings) (members : List (String × Value)) :
    Except SettingsError ControllerSettings :=
  members.foldlM (fun settings (key, value) => setField key settings key value) settings

/-- Set the fields from a list of their values; items past the last field are ignored. -/
def setItems (settings : ControllerSettings) (items : List Value) :
    Except SettingsError ControllerSettings :=
  (fieldKeys.zip items).zipIdx.foldlM
    (fun settings ((key, value), position) =>
      setField (toString position) settings key value) settings

def controllerOf (value : Value) : Except SettingsError ControllerSettings :=
  match value with
  | .table members => setMembers blank members
  | .list items => setItems blank items
  | _ => .error (.mistyped value .controller [controllerKey])

def ofValue (value : Value) : Except SettingsError Settings :=
  match value.member? controllerKey with
  | none => .ok {}
  | some value => (controllerOf value).map fun controller => { controller }

def defaultLayer : Value :=
  let s : ControllerSettings := {}
  .table [(controllerKey, .table (sortMembers [
    ("requeue_interval_secs", .unsigned s.requeueIntervalSecs.toNat),
    ("error_requeue_secs", .unsigned s.errorRequeueSecs.toNat),
    ("deletion_poll_secs", .unsigned s.deletionPollSecs.toNat),
    ("pending_deletion_requeue_secs", .unsigned s.pendingDeletionRequeueSecs.toNat),
    ("priority_class_name", .text s.priorityClassName),
    ("storage_node_label", .text s.storageNodeLabel),
    ("storage_node_taint", .text s.storageNodeTaint),
    ("default_failure_domain", .text s.defaultFailureDomain),
    ("default_replica_size", .unsigned s.defaultReplicaSize.toNat)]))]

end Settings

end CephExport
