import CephExport.Kube.Compute
import CephExport.Kube.Scheduling

/-!
The parts of Rook's custom resources that the operator sets: block pools and NFS servers.
-/

set_option autoImplicit false
set_option relaxedAutoImplicit false

namespace CephExport

structure Placement where
  nodeAffinity : Option NodeAffinity := none
  podAffinity : Option PodAffinity := none
  podAntiAffinity : Option PodAffinity := none
  tolerations : Option (List Toleration) := none
  topologySpreadConstraints : Option (List TopologySpreadConstraint) := none
  deriving DecidableEq

instance : Codec Placement where
  encode p := .object (memberSome "nodeAffinity" p.nodeAffinity ++
    memberSome "podAffinity" p.podAffinity ++ memberSome "podAntiAffinity" p.podAntiAffinity ++
    memberSome "tolerations" p.tolerations ++
    memberSome "topologySpreadConstraints" p.topologySpreadConstraints)
  decode? json := do
    let r ← Record.of? ["nodeAffinity", "podAffinity", "podAntiAffinity", "tolerations",
      "topologySpreadConstraints"] json
    let nodeAffinity ← r.optional? 0 "nodeAffinity"
    let podAffinity ← r.optional? 1 "podAffinity"
    let podAntiAffinity ← r.optional? 2 "podAntiAffinity"
    let tolerations ← r.optional? 3 "tolerations"
    let topologySpreadConstraints ← r.optional? 4 "topologySpreadConstraints"
    some { nodeAffinity, podAffinity, podAntiAffinity, tolerations, topologySpreadConstraints }

structure ReplicatedSpec where
  size : UInt32
  requireSafeReplicaSize : Bool := false
  replicasPerFailureDomain : Option UInt32 := none
  targetSizeRatio : Option Double := none
  deriving DecidableEq

instance : Codec ReplicatedSpec where
  encode s := .object (memberSome "replicasPerFailureDomain" s.replicasPerFailureDomain ++
    member "requireSafeReplicaSize" s.requireSafeReplicaSize ++ member "size" s.size ++
    memberSome "targetSizeRatio" s.targetSizeRatio)
  decode? json := do
    let r ← Record.of? ["size", "requireSafeReplicaSize", "replicasPerFailureDomain",
      "targetSizeRatio"] json
    let size ← r.required? 0 "size"
    let requireSafeReplicaSize ← r.withDefault? 1 "requireSafeReplicaSize" false
    let replicasPerFailureDomain ← r.optional? 2 "replicasPerFailureDomain"
    let targetSizeRatio ← r.optional? 3 "targetSizeRatio"
    some { size, requireSafeReplicaSize, replicasPerFailureDomain, targetSizeRatio }

structure BlockPoolSpec where
  name : Option String := none
  failureDomain : Option String := none
  replicated : ReplicatedSpec
  enableRBDStats : Bool := false
  deriving DecidableEq

instance : Codec BlockPoolSpec where
  encode s := .object (member "enableRBDStats" s.enableRBDStats ++
    memberSome "failureDomain" s.failureDomain ++ memberSome "name" s.name ++
    member "replicated" s.replicated)
  decode? json := do
    let r ← Record.of? ["name", "failureDomain", "replicated", "enableRBDStats"] json
    let name ← r.optional? 0 "name"
    let failureDomain ← r.optional? 1 "failureDomain"
    let replicated ← r.required? 2 "replicated"
    let enableRBDStats ← r.withDefault? 3 "enableRBDStats" false
    some { name, failureDomain, replicated, enableRBDStats }

def sameRatio : Option Double → Option Double → Bool
  | none, none => true
  | some x, some y => x.sameValue y
  | _, _ => false

/-- Whether two block pools declare the same; the two zeros are one ratio. -/
def BlockPoolSpec.agrees (a b : BlockPoolSpec) : Bool :=
  a.name == b.name && a.failureDomain == b.failureDomain && a.enableRBDStats == b.enableRBDStats &&
    a.replicated.size == b.replicated.size &&
    a.replicated.requireSafeReplicaSize == b.replicated.requireSafeReplicaSize &&
    a.replicated.replicasPerFailureDomain == b.replicated.replicasPerFailureDomain &&
    sameRatio a.replicated.targetSizeRatio b.replicated.targetSizeRatio

structure GaneshaServerSpec where
  active : Int32
  placement : Option Placement := none
  resources : Option ResourceRequirements := none
  priorityClassName : Option String := none
  deriving DecidableEq

instance : Codec GaneshaServerSpec where
  encode s := .object (member "active" s.active ++ memberSome "placement" s.placement ++
    memberSome "priorityClassName" s.priorityClassName ++ memberSome "resources" s.resources)
  decode? json := do
    let r ← Record.of? ["active", "placement", "resources", "priorityClassName"] json
    let active ← r.required? 0 "active"
    let placement ← r.optional? 1 "placement"
    let resources ← r.optional? 2 "resources"
    let priorityClassName ← r.optional? 3 "priorityClassName"
    some { active, placement, resources, priorityClassName }

structure ExporterSpec where
  server : GaneshaServerSpec
  deriving DecidableEq

instance : Codec ExporterSpec where
  encode s := .object (member "server" s.server)
  decode? json := do
    let r ← Record.of? ["server"] json
    let server ← r.required? 0 "server"
    some { server }

end CephExport
