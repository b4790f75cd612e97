import CephExport.Cluster.Basic
import CephExport.Proofs.Json.Text
import CephExport.Proofs.Kube.Codec
import CephExport.Settings.Basic

/-!
The formats of clusters and of settings. The served and the internal format of a cluster name their
members differently, and differ in what may be left out; both read back all that they write, and so
do the formats of placements and settings.
-/

set_option autoImplicit false
set_option relaxedAutoImplicit false

namespace CephExport

/-! ### The served format -/

namespace V1alpha1

instance : LawfulCodec NfsSpec where
  decode?_encode _ := decode?_encode_record (fun _ => rfl) rfl (by simp) (by simp)
  isNull_encode _ := rfl

instance : PlainCodec NfsSpec 1 where
  plain_encode _ := Members.Within.plain_object (by decide) (by decide)

instance : LawfulCodec NetworkSpec where
  decode?_encode _ := decode?_encode_record (fun _ => rfl) rfl (by simp) (by simp)
  isNull_encode _ := rfl

instance : PlainCodec NetworkSpec 1 where
  plain_encode _ := Members.Within.plain_object (by decide) (by decide)

variable {α : Type}

def nonempty? (map : KeyMap α) : Option (KeyMap α) := if map.isEmpty then none else some map

@[simp] theorem memberNonempty_eq [Codec α] (key : String) (map : KeyMap α) :
    memberNonempty key map = memberSome key (nonempty? map) := by
  unfold memberNonempty nonempty?
  split <;> rfl

@[simp] theorem getD_nonempty? (map : KeyMap α) : (nonempty? map).getD .empty = map := by
  unfold nonempty?
  split
  · rename_i none
    obtain ⟨entries, increasing⟩ := map
    obtain rfl := List.isEmpty_iff.1 none
    rfl
  · rfl

instance : LawfulCodec ClusterSpec where
  decode?_encode _ := decode?_encode_record (fun _ => rfl) rfl (by simp) (by simp)
  isNull_encode _ := rfl

instance : PlainCodec ClusterSpec 11 where
  plain_encode s := by
    simp only [encode, memberNonempty_eq]
    exact Members.Within.plain_object (by decide) (by decide)

end V1alpha1

/-! ### The internal format -/

instance : LawfulCodec NfsSpec where
  decode?_encode _ := decode?_encode_record (fun _ => rfl) rfl (by simp) (by simp)
  isNull_encode _ := rfl

instance : PlainCodec NfsSpec 1 where
  plain_encode _ := Members.Within.plain_object (by decide) (by decide)

instance : LawfulCodec NetworkSpec where
  decode?_encode _ := decode?_encode_record (fun _ => rfl) rfl (by simp) (by simp)
  isNull_encode _ := rfl

instance : PlainCodec NetworkSpec 1 where
  plain_encode _ := Members.Within.plain_object (by decide) (by decide)

instance : LawfulCodec ClusterSpec where
  decode?_encode _ := decode?_encode_record (fun _ => rfl) rfl (by simp) (by simp)
  isNull_encode _ := rfl

instance : PlainCodec ClusterSpec 11 where
  plain_encode _ := Members.Within.plain_object (by decide) (by decide)

/-! ### Settings -/

instance : LawfulCodec ControllerSettings where
  decode?_encode _ := decode?_encode_record (fun _ => rfl) rfl (by simp) (by simp)
  isNull_encode _ := rfl

instance : PlainCodec ControllerSettings 1 where
  plain_encode _ := Members.Within.plain_object (by decide) (by decide)

instance : LawfulCodec Settings where
  decode?_encode _ := decode?_encode_record (fun _ => rfl) rfl (by simp) (by simp)
  isNull_encode _ := rfl

instance : PlainCodec Settings 2 where
  plain_encode _ := Members.Within.plain_object (by decide) (by decide)

/-! ### The two formats of a cluster -/

/-- How the served format of a cluster differs from the internal one: in names, in that a map
without members is left out, and in that a boolean may be. -/
structure FormatsDiffer : Prop where
  served_failureDomain (spec : V1alpha1.ClusterSpec) :
    (encode spec).member? "failureDomain" = spec.failureDomain.map encode ∧
      (encode spec).member? "failure_domain" = none
  internal_failureDomain (spec : ClusterSpec) :
    (encode spec).member? "failure_domain" = spec.failureDomain.map encode ∧
      (encode spec).member? "failureDomain" = none
  served_maps (spec : V1alpha1.ClusterSpec) :
    (encode spec).member? "placement" =
      (if spec.placement.isEmpty then none else some (encode spec.placement)) ∧
      (encode spec).member? "resources" =
        if spec.resources.isEmpty then none else some (encode spec.resources)
  internal_maps (spec : ClusterSpec) :
    (encode spec).member? "placement" = some (encode spec.placement) ∧
      (encode spec).member? "resources" = some (encode spec.resources)
  served_booleans (nfs : V1alpha1.NfsSpec) (network : V1alpha1.NetworkSpec) :
    encode nfs = .object [("enable", .bool nfs.enable)] ∧
      encode network = .object [("hostNetwork", .bool network.hostNetwork)]
  internal_booleans (nfs : NfsSpec) (network : NetworkSpec) :
    encode nfs = .object [("enable", .bool nfs.enable)] ∧
      encode network = .object [("host_network", .bool network.hostNetwork)]
  served_booleans_absent (members : Members) :
    (members.lookup "enable" = none →
      decode? (.object members) = some (⟨false⟩ : V1alpha1.NfsSpec)) ∧
      (members.lookup "hostNetwork" = none →
        decode? (.object members) = some (⟨false⟩ : V1alpha1.NetworkSpec))
  internal_booleans_absent (members : Members) :
    (members.lookup "enable" = none → (decode? (.object members) : Option NfsSpec) = none) ∧
      (members.lookup "host_network" = none →
        (decode? (.object members) : Option NetworkSpec) = none)

theorem of?_singleton_of_lookup {key : String} {members : Members}
    (absent : members.lookup key = none) :
    Record.of? [key] (.object members) = some (.named members) := by
  rw [Json.lookup_eq_head?, List.head?_eq_none_iff] at absent
  simp [Record.of?, absent]

theorem formatsDiffer : FormatsDiffer where
  served_failureDomain spec := by
    simp [encode, Json.member?]
  internal_failureDomain spec := by
    simp [encode, Json.member?]
  served_maps spec := by
    simp [encode, Json.member?, V1alpha1.nonempty?, apply_ite (Option.map _)]
  internal_maps spec := by
    simp [encode, Json.member?]
  served_booleans nfs network := ⟨rfl, rfl⟩
  internal_booleans nfs network := ⟨rfl, rfl⟩
  served_booleans_absent members := by
    constructor <;> intro absent
    · simp [decode?, of?_singleton_of_lookup absent, absent, Record.readDefault]
    · simp [decode?, of?_singleton_of_lookup absent, absent, Record.readDefault]
  internal_booleans_absent members := by
    constructor <;> intro absent
    · simp [decode?, of?_singleton_of_lookup absent, absent, Record.readRequired]
    · simp [decode?, of?_singleton_of_lookup absent, absent, Record.readRequired]

/-! ### Conversion -/

namespace V1alpha1.ClusterSpec

/-- The internal form has each value of the served one, and no other. -/
structure DeclaresSame (served : ClusterSpec) (internal : CephExport.ClusterSpec) : Prop where
  nfs : internal.nfs.map (·.enable) = served.nfs.map (·.enable)
  network : internal.network.map (·.hostNetwork) = served.network.map (·.hostNetwork)
  resources : internal.resources = served.resources
  placement : internal.placement = served.placement
  failureDomain : internal.failureDomain = served.failureDomain
  replica : internal.replica = served.replica

theorem toSpec_eq_iff {served : ClusterSpec} {internal : CephExport.ClusterSpec} :
    served.toSpec = internal ↔ served.DeclaresSame internal := by
  constructor
  · rintro rfl
    exact ⟨by simp [toSpec, Function.comp_def], by simp [toSpec, Function.comp_def], rfl, rfl, rfl,
      rfl⟩
  · intro same
    have nfs := congrArg (Option.map CephExport.NfsSpec.mk) same.nfs
    have network := congrArg (Option.map CephExport.NetworkSpec.mk) same.network
    simp only [Option.map_map, Function.comp_def, Option.map_id'] at nfs network
    rw [toSpec, ← nfs, ← network, ← same.resources, ← same.placement, ← same.failureDomain,
      ← same.replica]

/-- A served cluster declares the same in the internal form, whether it is converted as it is or
once it was written and read, and whether what it was converted to is written and read. -/
structure ConvertsAlike (spec : ClusterSpec) : Prop where
  declared : spec.DeclaresSame spec.toSpec
  reread_before : (decode? (encode spec) : Option ClusterSpec).map (·.toSpec) = some spec.toSpec
  reread_after : decode? (encode spec.toSpec) = some spec.toSpec
  text_before : (readText? (writeText spec) : Option ClusterSpec).map (·.toSpec) = some spec.toSpec
  text_after : readText? (writeText spec.toSpec) = some spec.toSpec

theorem convertsAlike (spec : ClusterSpec) : spec.ConvertsAlike where
  declared := toSpec_eq_iff.mp rfl
  reread_before := by rw [decode?_encode, Option.map_some]
  reread_after := decode?_encode spec.toSpec
  text_before := by rw [readText?_writeText (by decide), Option.map_some]
  text_after := readText?_writeText (by decide) spec.toSpec

end V1alpha1.ClusterSpec

/-- The formats of clusters, placements and settings read back, those of clusters although they
differ, and a conversion commutes with writing and reading. -/
theorem formats_round_trip :
    (RoundTrips V1alpha1.ClusterSpec ∧ RoundTrips ClusterSpec ∧ RoundTrips Placement ∧
      RoundTrips ControllerSettings ∧ RoundTrips Settings) ∧
    FormatsDiffer ∧ ∀ spec : V1alpha1.ClusterSpec, spec.ConvertsAlike := by
  refine ⟨⟨?_, ?_, ?_, ?_, ?_⟩, formatsDiffer, V1alpha1.ClusterSpec.convertsAlike⟩
  · exact roundTrips (by decide)
  · exact roundTrips (by decide)
  · exact roundTrips (by decide)
  · exact roundTrips (by decide)
  · exact roundTrips (by decide)

/-- A served declaration with members that are null, empty or out of order, and as it is written
again. -/
theorem served_document_settles :
    let document := Json.object [("replica", .null), ("nfs", .object []), ("placement", .object []),
      ("network", .object [("hostNetwork", .bool true)]), ("failureDomain", .string "rack")]
    let written := Json.object [("failureDomain", .string "rack"),
      ("network", .object [("hostNetwork", .bool true)]),
      ("nfs", .object [("enable", .bool false)])]
    rewritten? V1alpha1.ClusterSpec document = some written ∧
      (decode? written : Option V1alpha1.ClusterSpec) = decode? document ∧
      rewritten? V1alpha1.ClusterSpec written = some written :=
  ⟨rfl, formats_round_trip.1.1.settles rfl⟩

end CephExport
