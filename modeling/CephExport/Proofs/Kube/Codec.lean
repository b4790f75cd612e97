import CephExport.Proofs.Json.Plain
import CephExport.Resource.Basic

/-!
The declarations that a wanted object can hold all read back, and most are written plainly:
placements with their affinities, tolerations and spreading, the resources of daemons, what a
Service declares, and owners.
-/

set_option autoImplicit false
set_option relaxedAutoImplicit false

namespace CephExport

/-! ### Scheduling -/

instance : LawfulCodec NodeSelectorRequirement where
  decode?_encode r := by
    simp only [decode?, encode]
    simp [Json.members?]
  isNull_encode _ := rfl

instance : PlainCodec NodeSelectorRequirement 2 where
  plain_encode _ := Members.Within.plain_object (by decide) (by decide)

instance : LawfulCodec NodeSelectorTerm where
  decode?_encode t := by
    simp only [decode?, encode]
    simp [Json.members?]
  isNull_encode _ := rfl

instance : PlainCodec NodeSelectorTerm 4 where
  plain_encode _ := Members.Within.plain_object (by decide) (by decide)

instance : LawfulCodec NodeSelector where
  decode?_encode s := by
    simp only [decode?, encode]
    simp [Json.members?]
  isNull_encode _ := rfl

instance : PlainCodec NodeSelector 6 where
  plain_encode _ := Members.Within.plain_object (by decide) (by decide)

instance : LawfulCodec PreferredSchedulingTerm where
  decode?_encode t := by
    simp only [decode?, encode]
    simp [Json.members?]
  isNull_encode _ := rfl

instance : PlainCodec PreferredSchedulingTerm 5 where
  plain_encode _ := Members.Within.plain_object (by decide) (by decide)

instance : LawfulCodec NodeAffinity where
  decode?_encode a := by
    simp only [decode?, encode]
    simp [Json.members?, preferredTerms, requiredTerms]
  isNull_encode _ := rfl

instance : PlainCodec NodeAffinity 7 where
  plain_encode _ := Members.Within.plain_object (by decide) (by decide)

instance : LawfulCodec LabelSelectorRequirement where
  decode?_encode r := by
    simp only [decode?, encode]
    simp [Json.members?]
  isNull_encode _ := rfl

instance : PlainCodec LabelSelectorRequirement 2 where
  plain_encode _ := Members.Within.plain_object (by decide) (by decide)

instance : LawfulCodec LabelSelector where
  decode?_encode s := by
    simp only [decode?, encode]
    simp [Json.members?]
  isNull_encode _ := rfl

instance : PlainCodec LabelSelector 4 where
  plain_encode _ := Members.Within.plain_object (by decide) (by decide)

instance : LawfulCodec PodAffinityTerm where
  decode?_encode t := by
    simp only [decode?, encode]
    simp [Json.members?]
  isNull_encode _ := rfl

instance : PlainCodec PodAffinityTerm 5 where
  plain_encode _ := Members.Within.plain_object (by decide) (by decide)

instance : LawfulCodec WeightedPodAffinityTerm where
  decode?_encode t := by
    simp only [decode?, encode]
    simp [Json.members?]
  isNull_encode _ := rfl

instance : PlainCodec WeightedPodAffinityTerm 6 where
  plain_encode _ := Members.Within.plain_object (by decide) (by decide)

instance : LawfulCodec PodAffinity where
  decode?_encode a := by
    simp only [decode?, encode]
    simp [Json.members?, preferredTerms, requiredTerms]
  isNull_encode _ := rfl

instance : PlainCodec PodAffinity 8 where
  plain_encode _ := Members.Within.plain_object (by decide) (by decide)

instance : LawfulCodec Toleration where
  decode?_encode t := by
    simp only [decode?, encode]
    simp [Json.members?]
  isNull_encode _ := rfl

instance : PlainCodec Toleration 1 where
  plain_encode _ := Members.Within.plain_object (by decide) (by decide)

instance : LawfulCodec TopologySpreadConstraint where
  decode?_encode c := by
    simp only [decode?, encode]
    simp [Json.members?]
  isNull_encode _ := rfl

instance : PlainCodec TopologySpreadConstraint 5 where
  plain_encode _ := Members.Within.plain_object (by decide) (by decide)

instance : LawfulCodec Placement where
  decode?_encode _ := decode?_encode_record (fun _ => rfl) rfl (by simp) (by simp)
  isNull_encode _ := rfl

instance : PlainCodec Placement 9 where
  plain_encode _ := Members.Within.plain_object (by decide) (by decide)

/-! ### Compute resources -/

instance : LawfulCodec Quantity := ⟨fun _ => rfl, fun _ => rfl⟩

instance : PlainCodec Quantity 0 := ⟨fun q => .string 0 q.text⟩

instance : LawfulCodec ResourceClaim where
  decode?_encode c := by
    simp only [decode?, encode]
    simp [Json.members?]
  isNull_encode _ := rfl

instance : PlainCodec ResourceClaim 1 where
  plain_encode _ := Members.Within.plain_object (by decide) (by decide)

instance : LawfulCodec ResourceRequirements where
  decode?_encode r := by
    simp only [decode?, encode]
    simp [Json.members?]
  isNull_encode _ := rfl

instance : PlainCodec ResourceRequirements 3 where
  plain_encode _ := Members.Within.plain_object (by decide) (by decide)

/-! ### Services -/

instance : LawfulCodec PortTarget where
  decode?_encode target := by
    cases target with
    | number port =>
      change (decode? (encode port) : Option Int32).map PortTarget.number = some (.number port)
      rw [decode?_encode, Option.map_some]
    | name name => rfl
  isNull_encode target := by
    cases target <;> rfl

instance : PlainCodec PortTarget 0 where
  plain_encode target := by
    cases target with
    | number port => exact plain_encode port
    | name name => exact plain_encode name

instance : LawfulCodec ServicePort where
  decode?_encode p := by
    simp only [decode?, encode]
    simp [Json.members?]
  isNull_encode _ := rfl

instance : PlainCodec ServicePort 1 where
  plain_encode _ := Members.Within.plain_object (by decide) (by decide)

instance : LawfulCodec ClientIPConfig where
  decode?_encode c := by
    simp only [decode?, encode]
    simp [Json.members?]
  isNull_encode _ := rfl

instance : PlainCodec ClientIPConfig 1 where
  plain_encode _ := Members.Within.plain_object (by decide) (by decide)

instance : LawfulCodec SessionAffinityConfig where
  decode?_encode c := by
    simp only [decode?, encode]
    simp [Json.members?]
  isNull_encode _ := rfl

instance : PlainCodec SessionAffinityConfig 2 where
  plain_encode _ := Members.Within.plain_object (by decide) (by decide)

instance : LawfulCodec ServiceSpec where
  decode?_encode s := by
    simp only [decode?]
    refine read_members rfl ?_
    refine read_optional s.allocateLoadBalancerNodePorts (by simp) ?_
    refine read_optional s.clusterIP (by simp) ?_
    refine read_optional s.clusterIPs (by simp) ?_
    refine read_optional s.externalIPs (by simp) ?_
    refine read_optional s.externalName (by simp) ?_
    refine read_optional s.externalTrafficPolicy (by simp) ?_
    refine read_optional s.healthCheckNodePort (by simp) ?_
    refine read_optional s.internalTrafficPolicy (by simp) ?_
    refine read_optional s.ipFamilies (by simp) ?_
    refine read_optional s.ipFamilyPolicy (by simp) ?_
    refine read_optional s.loadBalancerClass (by simp) ?_
    refine read_optional s.loadBalancerIP (by simp) ?_
    refine read_optional s.loadBalancerSourceRanges (by simp) ?_
    refine read_optional s.ports (by simp) ?_
    refine read_optional s.publishNotReadyAddresses (by simp) ?_
    refine read_optional s.selector (by simp) ?_
    refine read_optional s.sessionAffinity (by simp) ?_
    refine read_optional s.sessionAffinityConfig (by simp) ?_
    refine read_optional s.trafficDistribution (by simp) ?_
    refine read_optional s.type (by simp) ?_
    rfl
  isNull_encode _ := rfl

instance : PlainCodec ServiceSpec 3 where
  plain_encode _ := Members.Within.plain_object (by decide) (by decide)

/-! ### Owners and custom resources -/

instance : LawfulCodec OwnerReference where
  decode?_encode r := by
    simp only [decode?, encode]
    simp [Json.members?]
  isNull_encode _ := rfl

instance : PlainCodec OwnerReference 1 where
  plain_encode _ := Members.Within.plain_object (by decide) (by decide)

instance : LawfulCodec ReplicatedSpec where
  decode?_encode _ := decode?_encode_record (fun _ => rfl) rfl (by simp) (by simp)
  isNull_encode _ := rfl

instance : LawfulCodec BlockPoolSpec where
  decode?_encode _ := decode?_encode_record (fun _ => rfl) rfl (by simp) (by simp)
  isNull_encode _ := rfl

instance : LawfulCodec GaneshaServerSpec where
  decode?_encode _ := decode?_encode_record (fun _ => rfl) rfl (by simp) (by simp)
  isNull_encode _ := rfl

instance : PlainCodec GaneshaServerSpec 10 where
  plain_encode _ := Members.Within.plain_object (by decide) (by decide)

instance : LawfulCodec ExporterSpec where
  decode?_encode _ := decode?_encode_record (fun _ => rfl) rfl (by simp) (by simp)
  isNull_encode _ := rfl

instance : PlainCodec ExporterSpec 11 where
  plain_encode _ := Members.Within.plain_object (by decide) (by decide)

/-! ### Metadata -/

namespace ObjectMeta

structure ReadsFrom (m : ObjectMeta) (members : Members) : Prop where
  annotations : members.optional? "annotations" = some m.annotations
  creationTimestamp : members.optional? "creationTimestamp" = some m.creationTimestamp
  deletionGracePeriodSeconds :
    members.optional? "deletionGracePeriodSeconds" = some m.deletionGracePeriodSeconds
  deletionTimestamp : members.optional? "deletionTimestamp" = some m.deletionTimestamp
  finalizers : members.optional? "finalizers" = some m.finalizers
  generateName : members.optional? "generateName" = some m.generateName
  generation : members.optional? "generation" = some m.generation
  labels : members.optional? "labels" = some m.labels
  managedFields : members.optional? "managedFields" = some m.managedFields
  name : members.optional? "name" = some m.name
  «namespace» : members.optional? "namespace" = some m.namespace
  ownerReferences : members.optional? "ownerReferences" = some m.ownerReferences
  resourceVersion : members.optional? "resourceVersion" = some m.resourceVersion
  selfLink : members.optional? "selfLink" = some m.selfLink
  uid : members.optional? "uid" = some m.uid

theorem decode?_eq_some_iff {json : Json} {m : ObjectMeta} :
    decode? json = some m ↔ ∃ members, json = .object members ∧ m.ReadsFrom members := by
  constructor
  · intro read
    obtain ⟨members, object, read⟩ := Option.bind_eq_some_iff.1 read
    obtain ⟨_, annotations, read⟩ := Option.bind_eq_some_iff.1 read
    obtain ⟨_, creationTimestamp, read⟩ := Option.bind_eq_some_iff.1 read
    obtain ⟨_, deletionGracePeriodSeconds, read⟩ := Option.bind_eq_some_iff.1 read
    obtain ⟨_, deletionTimestamp, read⟩ := Option.bind_eq_some_iff.1 read
    obtain ⟨_, finalizers, read⟩ := Option.bind_eq_some_iff.1 read
    obtain ⟨_, generateName, read⟩ := Option.bind_eq_some_iff.1 read
    obtain ⟨_, generation, read⟩ := Option.bind_eq_some_iff.1 read
    obtain ⟨_, labels, read⟩ := Option.bind_eq_some_iff.1 read
    obtain ⟨_, managedFields, read⟩ := Option.bind_eq_some_iff.1 read
    obtain ⟨_, name, read⟩ := Option.bind_eq_some_iff.1 read
    obtain ⟨_, «namespace», read⟩ := Option.bind_eq_some_iff.1 read
    obtain ⟨_, ownerReferences, read⟩ := Option.bind_eq_some_iff.1 read
    obtain ⟨_, resourceVersion, read⟩ := Option.bind_eq_some_iff.1 read
    obtain ⟨_, selfLink, read⟩ := Option.bind_eq_some_iff.1 read
    obtain ⟨_, uid, read⟩ := Option.bind_eq_some_iff.1 read
    obtain rfl := Option.some.inj read
    refine ⟨members, Json.eq_object_of_members? object, ?_⟩
    constructor <;> assumption
  · rintro ⟨members, rfl, reads⟩
    refine Option.bind_eq_some_iff.2 ⟨members, rfl, ?_⟩
    refine Option.bind_eq_some_iff.2 ⟨_, reads.annotations, ?_⟩
    refine Option.bind_eq_some_iff.2 ⟨_, reads.creationTimestamp, ?_⟩
    refine Option.bind_eq_some_iff.2 ⟨_, reads.deletionGracePeriodSeconds, ?_⟩
    refine Option.bind_eq_some_iff.2 ⟨_, reads.deletionTimestamp, ?_⟩
    refine Option.bind_eq_some_iff.2 ⟨_, reads.finalizers, ?_⟩
    refine Option.bind_eq_some_iff.2 ⟨_, reads.generateName, ?_⟩
    refine Option.bind_eq_some_iff.2 ⟨_, reads.generation, ?_⟩
    refine Option.bind_eq_some_iff.2 ⟨_, reads.labels, ?_⟩
    refine Option.bind_eq_some_iff.2 ⟨_, reads.managedFields, ?_⟩
    refine Option.bind_eq_some_iff.2 ⟨_, reads.name, ?_⟩
    refine Option.bind_eq_some_iff.2 ⟨_, reads.namespace, ?_⟩
    refine Option.bind_eq_some_iff.2 ⟨_, reads.ownerReferences, ?_⟩
    refine Option.bind_eq_some_iff.2 ⟨_, reads.resourceVersion, ?_⟩
    refine Option.bind_eq_some_iff.2 ⟨_, reads.selfLink, ?_⟩
    refine Option.bind_eq_some_iff.2 ⟨_, reads.uid, ?_⟩
    rfl

end ObjectMeta

end CephExport
