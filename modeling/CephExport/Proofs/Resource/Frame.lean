import CephExport.Resource.Drift
import CephExport.Proofs.Kube.Frame
import CephExport.Proofs.Resource.Conformity

/-!
What becomes of the document of a managed object when the object is brought in line with a wanted
one and sent again. Owners, the operator's labels and what is owned of its body become what they are
in the wanted object. The rest stays as far as the types of the operator know it, and what they do
not know is not sent.
-/

set_option autoImplicit false
set_option relaxedAutoImplicit false

namespace CephExport

open CephExport.Frame (Row Rows)
open Json (given? seek step?)

def operatorLabels : List String := [managedByLabel, partOfLabel, componentLabel]

theorem mem_operatorLabels {key : String} : key ∈ operatorLabels ↔ IsOperatorLabel key := by
  simp [operatorLabels, IsOperatorLabel]

namespace ObjectMeta

def HasOperatorLabels (m : ObjectMeta) : Prop :=
  ∀ key, (m.labelMap.get? key).isSome ↔ key ∈ operatorLabels

def labelsFrame (wanted : ObjectMeta) : Frame :=
  .orElse (.object []) (.map (operatorLabels.map fun key =>
    (key, .becomes ((wanted.labelMap.get? key).map encode))) .whole)

def fields (wanted : ObjectMeta) : List (String × Frame) :=
  [("annotations", Framed.frame (KeyMap String)), ("creationTimestamp", .time),
    ("deletionGracePeriodSeconds", .whole), ("deletionTimestamp", .time),
    ("finalizers", Framed.frame (List String)), ("generateName", .whole), ("generation", .whole),
    ("labels", wanted.labelsFrame), ("managedFields", Framed.frame (List ManagedFieldsEntry)),
    ("name", .whole), ("namespace", .whole),
    ("ownerReferences", .becomes (wanted.ownerReferences.map encode)), ("resourceVersion", .whole),
    ("selfLink", .whole), ("uid", .whole)]

/-- What becomes of the metadata of an object, also of one that has none. -/
def frame (wanted : ObjectMeta) : Frame := .orElse (.object []) (.record wanted.fields)

def inLine (m wanted : ObjectMeta) : ObjectMeta :=
  { m with
    ownerReferences := wanted.ownerReferences, labels := some (m.labelMap.extend wanted.labelMap) }

variable {members : Members} {wanted : ObjectMeta}

theorem getD_lookup_setLabels (becomes : String → Frame) (stays : Frame) (key : String) :
    ((operatorLabels.map fun key => (key, becomes key)).lookup key).getD stays =
      if key ∈ operatorLabels then becomes key else stays := by
  split
  · rename_i owned
    rw [List.lookup_graph becomes owned]
    rfl
  · rename_i foreign
    rw [List.lookup_eq_none_iff.2 ?_]
    · rfl
    · intro entry listed
      obtain ⟨owned, within, rfl⟩ := List.mem_map.1 listed
      have different : key ≠ owned := fun same => foreign (same ▸ within)
      simpa using different

theorem given?_extend (labelled : wanted.HasOperatorLabels) (labels : KeyMap String)
    (key : String) :
    given? key ((labels.extend wanted.labelMap).entries.map fun entry =>
      (entry.1, encode entry.2)) =
      if key ∈ operatorLabels then (wanted.labelMap.get? key).map encode
      else (labels.get? key).map encode := by
  rw [given?_entries, KeyMap.get?_extend]
  split
  · rename_i owned
    obtain ⟨value, set⟩ := Option.isSome_iff_exists.1 ((labelled key).2 owned)
    rw [set]
    rfl
  · rename_i foreign
    rw [Option.not_isSome_iff_eq_none.1 (mt (labelled key).1 foreign), Option.none_or]

theorem row_labels {found : Option (KeyMap String)} (labelled : wanted.HasOperatorLabels)
    (read : members.optional? "labels" = some found) :
    Row members "labels" wanted.labelsFrame
      (memberSome "labels" (some ((found.getD .empty).extend wanted.labelMap))) := by
  refine ⟨some (encode ((found.getD .empty).extend wanted.labelMap)), rfl, ?_, ?_⟩
  · rcases Members.optional?_eq_some read with ⟨rfl, none⟩ | ⟨json, map, given, decoded, rfl⟩
    · rw [none]
      refine Frame.agrees_orElse_of_none rfl fun key => ?_
      change Frame.Agrees (Option.getD _ _) Option.none (given? key _)
      rw [getD_lookup_setLabels, given?_extend labelled]
      split
      · exact Frame.agrees_becomes _ _
      · exact Frame.Firm.whole.agrees_none
    · rw [given]
      cases json with
      | object entries =>
        refine Frame.agrees_orElse _ (Frame.agrees_map fun key => ?_)
        rw [getD_lookup_setLabels, given?_extend labelled, given?_of_decode decoded]
        split
        · exact Frame.agrees_becomes _ _
        · exact Frame.agrees_whole _
      | _ => cases decoded
  · rintro json ⟨⟩
    rfl

theorem rows_inLine {json : Json} {m : ObjectMeta} (labelled : wanted.HasOperatorLabels)
    (read : decode? json = some m) :
    ∃ members written, json = .object members ∧ encode (m.inLine wanted) = .object written ∧
      Rows members wanted.fields written := by
  obtain ⟨members, rfl, reads⟩ := decode?_eq_some_iff.1 read
  refine ⟨members, _, rfl, rfl, ?_⟩
  simp only [inLine, List.append_assoc]
  exact .next (Frame.row_optional reads.annotations) <|
    .next (Frame.row_optional reads.creationTimestamp) <|
    .next (Frame.row_optional reads.deletionGracePeriodSeconds) <|
    .next (Frame.row_optional reads.deletionTimestamp) <|
    .next (Frame.row_optional reads.finalizers) <|
    .next (Frame.row_optional reads.generateName) <|
    .next (Frame.row_optional reads.generation) <|
    .next (row_labels labelled reads.labels) <|
    .next (Frame.row_optional reads.managedFields) <|
    .next (Frame.row_optional reads.name) <|
    .next (Frame.row_optional reads.namespace) <|
    .next (Frame.row_becomes wanted.ownerReferences) <|
    .next (Frame.row_optional reads.resourceVersion) <|
    .next (Frame.row_optional reads.selfLink) <|
    .last (Frame.row_optional reads.uid)

theorem distinct_fields (wanted : ObjectMeta) : (wanted.fields.map Prod.fst).Nodup := by
  have keys : wanted.fields.map Prod.fst = (fields {}).map Prod.fst := rfl
  rw [keys]
  decide

theorem isNull_inLine (m : ObjectMeta) : (encode (m.inLine wanted)).isNull = false := rfl

theorem row_of_given {json : Json} {m : ObjectMeta} (labelled : wanted.HasOperatorLabels)
    (given : given? "metadata" members = some json) (read : decode? json = some m) :
    Row members "metadata" wanted.frame (member "metadata" (m.inLine wanted)) := by
  refine ⟨some (encode (m.inLine wanted)), rfl, ?_, ?_⟩
  · obtain ⟨inner, written, rfl, same, rows⟩ := rows_inLine labelled read
    rw [given, same]
    exact Frame.agrees_orElse _ (Frame.agrees_record rows wanted.distinct_fields)
  · rintro _ ⟨⟩
    exact isNull_inLine m

theorem row_of_none (labelled : wanted.HasOperatorLabels)
    (none : given? "metadata" members = none) :
    Row members "metadata" wanted.frame (member "metadata" (inLine {} wanted)) := by
  refine ⟨some (encode (inLine {} wanted)), rfl, ?_, ?_⟩
  · have empty : decode? (Json.object []) = some ({} : ObjectMeta) := rfl
    obtain ⟨nothing, written, same, encoded, rows⟩ :
        ∃ nothing written, Json.object [] = .object nothing ∧
          encode (inLine {} wanted) = .object written ∧ Rows nothing wanted.fields written :=
      rows_inLine labelled empty
    obtain rfl : [] = nothing := Json.object.inj same
    rw [none, encoded]
    exact Frame.agrees_orElse_of_none rfl
      fun token => Frame.agrees_record_children rows wanted.distinct_fields token
  · rintro _ ⟨⟩
    exact isNull_inLine {}

theorem replaced_of_at? {path : List String} {value : Option Json}
    (replaced : wanted.frame.at? path = some (.becomes value)) :
    (∃ rest, path = "ownerReferences" :: rest ∧
      value = seek rest (wanted.ownerReferences.map encode)) ∨
    ∃ label ∈ operatorLabels, ∃ rest, path = "labels" :: label :: rest ∧
      value = seek rest ((wanted.labelMap.get? label).map encode) := by
  have firm : ∀ field ∈ wanted.fields, field.1 ∉ ["labels", "ownerReferences"] → field.2.Firm := by
    simp [fields]
  obtain ⟨token, rest, inner, rfl, loose, field, below⟩ :=
    Frame.exists_loose_field (Frame.at?_of_orElse replaced) firm
  rcases List.mem_pair.1 loose with rfl | rfl
  · obtain rfl : inner = wanted.labelsFrame := by simpa [fields] using field
    cases rest with
    | nil => cases below
    | cons label rest =>
      change Frame.at? (Option.getD _ _) rest = _ at below
      rw [getD_lookup_setLabels] at below
      split at below
      · rename_i owned
        rw [Frame.at?_becomes] at below
        exact .inr ⟨label, owned, rest, rfl, by simpa using below.symm⟩
      · exact absurd below (Frame.Firm.whole.at?_ne_becomes rest value)
  · obtain rfl : inner = .becomes (wanted.ownerReferences.map encode) := by
      simpa [fields] using field
    rw [Frame.at?_becomes] at below
    exact .inl ⟨rest, rfl, by simpa using below.symm⟩

theorem step?_ownerReferences (m : ObjectMeta) :
    step? "ownerReferences" (encode m) = m.ownerReferences.map encode :=
  given?_of_values _ (by simp)

theorem step?_labels (m : ObjectMeta) : step? "labels" (encode m) = m.labels.map encode :=
  given?_of_values _ (by simp)

theorem seek_label (m : ObjectMeta) (label : String) :
    seek ["labels", label] (some (encode m)) = (m.labelMap.get? label).map encode := by
  rw [Json.seek_cons, Json.seek_cons, Option.bind_some, step?_labels, labelMap]
  cases m.labels with
  | none => rfl
  | some labels => exact given?_entries labels label

end ObjectMeta

def ServicePort.comparedKeys : List String := ["name", "port", "protocol", "targetPort"]

theorem ServicePort.step?_of_foreign {port : ServicePort} {token : String}
    (appProtocol : port.appProtocol = none) (nodePort : port.nodePort = none)
    (foreign : token ∉ comparedKeys) : step? token (encode port) = none := by
  simp only [comparedKeys, List.mem_cons, List.not_mem_nil, or_false, not_or] at foreign
  obtain ⟨name, number, protocol, target⟩ := foreign
  refine given?_of_values (none : Option String) ?_
  simp [appProtocol, nodePort, Ne.symm name, Ne.symm number, Ne.symm protocol, Ne.symm target]

namespace ServiceSpec

/-- What the operator owns of a declaration that is there. -/
def ownedKeys : List String := ["ports", "selector", "sessionAffinity"]

def fields (wanted : ServiceSpec) : List (String × Frame) :=
  [("allocateLoadBalancerNodePorts", .whole), ("clusterIP", .whole),
    ("clusterIPs", Framed.frame (List String)), ("externalIPs", Framed.frame (List String)),
    ("externalName", .whole), ("externalTrafficPolicy", .whole), ("healthCheckNodePort", .whole),
    ("internalTrafficPolicy", .whole), ("ipFamilies", Framed.frame (List String)),
    ("ipFamilyPolicy", .whole), ("loadBalancerClass", .whole), ("loadBalancerIP", .whole),
    ("loadBalancerSourceRanges", Framed.frame (List String)),
    ("ports", .becomes (wanted.ports.map encode)), ("publishNotReadyAddresses", .whole),
    ("selector", .becomes (wanted.selector.map encode)),
    ("sessionAffinity", .becomes (wanted.sessionAffinity.map encode)),
    ("sessionAffinityConfig", Framed.frame SessionAffinityConfig), ("trafficDistribution", .whole),
    ("type", .whole)]

theorem distinct_fields (wanted : ServiceSpec) : (wanted.fields.map Prod.fst).Nodup := by
  have keys : wanted.fields.map Prod.fst = (fields {}).map Prod.fst := rfl
  rw [keys]
  decide

def inLine (spec wanted : ServiceSpec) : ServiceSpec :=
  { spec with
    ports := wanted.ports, selector := wanted.selector, sessionAffinity := wanted.sessionAffinity }

theorem agrees_inLine {json : Json} {spec : ServiceSpec} (read : decode? json = some spec)
    (wanted : ServiceSpec) :
    (Frame.record wanted.fields).Agrees (some json) (some (encode (spec.inLine wanted))) := by
  obtain ⟨members, object, read⟩ := Option.bind_eq_some_iff.1 read
  obtain ⟨_, allocate, read⟩ := Option.bind_eq_some_iff.1 read
  obtain ⟨_, clusterIP, read⟩ := Option.bind_eq_some_iff.1 read
  obtain ⟨_, clusterIPs, read⟩ := Option.bind_eq_some_iff.1 read
  obtain ⟨_, externalIPs, read⟩ := Option.bind_eq_some_iff.1 read
  obtain ⟨_, externalName, read⟩ := Option.bind_eq_some_iff.1 read
  obtain ⟨_, externalTraffic, read⟩ := Option.bind_eq_some_iff.1 read
  obtain ⟨_, healthCheck, read⟩ := Option.bind_eq_some_iff.1 read
  obtain ⟨_, internalTraffic, read⟩ := Option.bind_eq_some_iff.1 read
  obtain ⟨_, families, read⟩ := Option.bind_eq_some_iff.1 read
  obtain ⟨_, familyPolicy, read⟩ := Option.bind_eq_some_iff.1 read
  obtain ⟨_, balancerClass, read⟩ := Option.bind_eq_some_iff.1 read
  obtain ⟨_, balancerIP, read⟩ := Option.bind_eq_some_iff.1 read
  obtain ⟨_, sourceRanges, read⟩ := Option.bind_eq_some_iff.1 read
  obtain ⟨_, -, read⟩ := Option.bind_eq_some_iff.1 read
  obtain ⟨_, notReady, read⟩ := Option.bind_eq_some_iff.1 read
  obtain ⟨_, -, read⟩ := Option.bind_eq_some_iff.1 read
  obtain ⟨_, -, read⟩ := Option.bind_eq_some_iff.1 read
  obtain ⟨_, affinityConfig, read⟩ := Option.bind_eq_some_iff.1 read
  obtain ⟨_, distribution, read⟩ := Option.bind_eq_some_iff.1 read
  obtain ⟨_, type, read⟩ := Option.bind_eq_some_iff.1 read
  obtain rfl := Option.some.inj read
  simp only [inLine, encode, List.append_assoc]
  refine Frame.agrees_of_members object ?_ wanted.distinct_fields
  exact .next (Frame.row_optional allocate) <| .next (Frame.row_optional clusterIP) <|
    .next (Frame.row_optional clusterIPs) <| .next (Frame.row_optional externalIPs) <|
    .next (Frame.row_optional externalName) <| .next (Frame.row_optional externalTraffic) <|
    .next (Frame.row_optional healthCheck) <| .next (Frame.row_optional internalTraffic) <|
    .next (Frame.row_optional families) <| .next (Frame.row_optional familyPolicy) <|
    .next (Frame.row_optional balancerClass) <| .next (Frame.row_optional balancerIP) <|
    .next (Frame.row_optional sourceRanges) <| .next (Frame.row_becomes wanted.ports) <|
    .next (Frame.row_optional notReady) <| .next (Frame.row_becomes wanted.selector) <|
    .next (Frame.row_becomes wanted.sessionAffinity) <|
    .next (Frame.row_optional affinityConfig) <|
    .next (Frame.row_optional distribution) <| .last (Frame.row_optional type)

theorem step?_ports (spec : ServiceSpec) : step? "ports" (encode spec) = spec.ports.map encode :=
  given?_of_values _ (by simp)

theorem step?_selector (spec : ServiceSpec) :
    step? "selector" (encode spec) = spec.selector.map encode :=
  given?_of_values _ (by simp)

theorem step?_sessionAffinity (spec : ServiceSpec) :
    step? "sessionAffinity" (encode spec) = spec.sessionAffinity.map encode :=
  given?_of_values _ (by simp)

theorem replaced_of_at? {wanted : ServiceSpec} {path : List String} {value : Option Json}
    (replaced : (Frame.record wanted.fields).at? path = some (.becomes value)) :
    (∃ key ∈ ownedKeys, [key] <+: path) ∧ value = seek path (some (encode wanted)) := by
  have firm : ∀ field ∈ wanted.fields, field.1 ∉ ownedKeys → field.2.Firm := by
    simp [fields, ownedKeys]
  obtain ⟨token, rest, inner, rfl, loose, field, below⟩ := Frame.exists_loose_field replaced firm
  obtain rfl : inner = .becomes (step? token (encode wanted)) := by
    simp only [ownedKeys, List.mem_cons, List.not_mem_nil, or_false] at loose
    rcases loose with rfl | rfl | rfl
    · rw [step?_ports]
      simpa [fields] using field
    · rw [step?_selector]
      simpa [fields] using field
    · rw [step?_sessionAffinity]
      simpa [fields] using field
  rw [Frame.at?_becomes] at below
  rw [Json.seek_cons, Option.bind_some]
  exact ⟨⟨token, loose, rest, rfl⟩, (Frame.becomes.inj (Option.some.inj below)).symm⟩

theorem exists_at?_of_owned (wanted : ServiceSpec) {key : String} (owned : key ∈ ownedKeys)
    (rest : List String) :
    ∃ value, (Frame.record wanted.fields).at? (key :: rest) = some (.becomes value) := by
  simp only [ownedKeys, List.mem_cons, List.not_mem_nil, or_false] at owned
  rcases owned with rfl | rfl | rfl <;> exact ⟨_, Frame.at?_becomes _ rest⟩

end ServiceSpec

namespace Managed

variable {kind : Kind}

/-- What becomes of what an object declares and reports. A declaration of Rook belongs to the
operator as a whole, and so does one that a Service did not have. -/
def bodyFields (document : Members) :
    {kind : Kind} → (desired : Managed kind) → List (String × Frame)
  | .blockPool, desired => [("spec", .becomes (some (encode (α := BlockPoolSpec) desired.body)))]
  | .exporter, desired => [("spec", .becomes (some (encode (α := ExporterSpec) desired.body)))]
  | .service, desired =>
    let spec := ServiceBody.spec desired.body
    [("spec", if (given? "spec" document).isSome then .record (spec.getD {}).fields
        else .becomes (spec.map encode)),
      ("status", Framed.frame ServiceStatus)]

/-- What becomes of the document of an object that is brought in line with a wanted one. -/
def frame (document : Members) (desired : Managed kind) : Frame :=
  .record ([("apiVersion", .becomes (some (.string kind.apiVersion))),
    ("kind", .becomes (some (.string kind.name))), ("metadata", desired.metadata.frame)] ++
    desired.bodyFields document)

end Managed

/-- The places in the document of an object that are replaced, with all that is within them. -/
def Kind.ownedPaths (kind : Kind) (document : Members) : List (List String) :=
  [["apiVersion"], ["kind"], ["metadata", "ownerReferences"]] ++
    operatorLabels.map (fun label => ["metadata", "labels", label]) ++
    match kind with
    | .blockPool | .exporter => [["spec"]]
    | .service =>
      if (given? "spec" document).isSome then ServiceSpec.ownedKeys.map fun key => ["spec", key]
      else [["spec"]]

namespace Managed

variable {kind : Kind} {members : Members} {live desired : Managed kind} {cluster : Cluster}
  {scheme : OwnerScheme} {settings : Settings}

/-! ### The document of an object -/

theorem valuesOf_bodyMembers {key : String} (other : key ∉ ["spec", "status"]) (body : kind.Body) :
    Json.valuesOf key (bodyMembers kind body) = [] := by
  simp only [List.mem_cons, List.not_mem_nil, or_false, not_or] at other
  cases kind with
  | blockPool =>
    exact (valuesOf_member (α := BlockPoolSpec) key "spec" _).trans (if_neg (Ne.symm other.1))
  | exporter =>
    exact (valuesOf_member (α := ExporterSpec) key "spec" _).trans (if_neg (Ne.symm other.1))
  | service => simp [bodyMembers, Ne.symm other.1, Ne.symm other.2]

theorem step?_apiVersion (object : Managed kind) :
    step? "apiVersion" (encode object) = some (.string kind.apiVersion) :=
  given?_of_values (some kind.apiVersion) (by simp [valuesOf_bodyMembers])

theorem step?_kind (object : Managed kind) :
    step? "kind" (encode object) = some (.string kind.name) :=
  given?_of_values (some kind.name) (by simp [valuesOf_bodyMembers])

theorem step?_metadata (object : Managed kind) :
    step? "metadata" (encode object) = some (encode object.metadata) := by
  have values : Json.valuesOf "metadata" (member "apiVersion" kind.apiVersion ++
      member "kind" kind.name ++ member "metadata" object.metadata ++
      bodyMembers kind object.body) = [encode object.metadata] := by
    simp [valuesOf_bodyMembers]
  change given? "metadata" _ = _
  rw [given?, values]
  rfl

theorem seek_ownerReferences (object : Managed kind) :
    seek ["metadata", "ownerReferences"] (some (encode object)) =
      object.metadata.ownerReferences.map encode := by
  rw [Json.seek_cons, Json.seek_cons, Option.bind_some, step?_metadata, Option.bind_some,
    ObjectMeta.step?_ownerReferences]
  rfl

theorem seek_label (object : Managed kind) (label : String) :
    seek ["metadata", "labels", label] (some (encode object)) =
      (object.metadata.labelMap.get? label).map encode := by
  rw [Json.seek_cons, Option.bind_some, step?_metadata, ObjectMeta.seek_label]

theorem step?_spec_blockPool (object : Managed .blockPool) :
    step? "spec" (encode object) = some (encode (α := BlockPoolSpec) object.body) := rfl

theorem step?_spec_exporter (object : Managed .exporter) :
    step? "spec" (encode object) = some (encode (α := ExporterSpec) object.body) := rfl

theorem step?_spec_service (object : Managed .service) :
    step? "spec" (encode object) = (ServiceBody.spec object.body).map encode :=
  given?_of_values _ (by simp [bodyMembers])

/-! ### What is replaced -/

theorem hasOperatorLabels_of_desired (built : kind.desired cluster scheme settings = .ok desired) :
    desired.metadata.HasOperatorLabels := by
  obtain ⟨parent, owner, -, -, -, rfl⟩ := Kind.exists_eq_of_desired built
  intro key
  rw [mem_operatorLabels]
  constructor
  · intro set
    by_contra foreign
    rw [Kind.get?_labelMap_of_desired foreign built] at set
    cases set
  · change _ → ((managedLabels owner.name kind.tag).get? key).isSome
    rintro (rfl | rfl | rfl)
    · rw [get?_managedBy]
      rfl
    · rw [get?_partOf]
      rfl
    · rw [get?_component]
      rfl

theorem exists_spec_of_desired {desired : Managed .service}
    (built : Kind.service.desired cluster scheme settings = .ok desired) :
    ∃ spec, ServiceBody.spec desired.body = some spec := by
  obtain ⟨parent, owner, -, -, -, rfl⟩ := Kind.exists_eq_of_desired built
  exact ⟨_, rfl⟩

theorem replaced_of_at? {path : List String} {value : Option Json}
    (built : kind.desired cluster scheme settings = .ok desired)
    (replaced : (desired.frame members).at? path = some (.becomes value)) :
    (∃ owned ∈ kind.ownedPaths members, owned <+: path) ∧
      value = seek path (some (encode desired)) := by
  obtain ⟨token, rest, inner, rfl, field, below⟩ := Frame.exists_field_of_at? replaced
  rw [Json.seek_cons, Option.bind_some]
  have replacedBy {put : Option Json} (same : inner = .becomes put)
      (found : step? token (encode desired) = put) :
      value = seek rest (step? token (encode desired)) := by
    rw [same, Frame.at?_becomes] at below
    rw [found]
    exact (Frame.becomes.inj (Option.some.inj below)).symm
  simp only [List.cons_append, List.nil_append, List.mem_cons, Prod.mk.injEq] at field
  rcases field with ⟨rfl, same⟩ | ⟨rfl, same⟩ | ⟨rfl, rfl⟩ | field
  · exact ⟨⟨["apiVersion"], by simp [Kind.ownedPaths], rest, rfl⟩,
      replacedBy same desired.step?_apiVersion⟩
  · exact ⟨⟨["kind"], by simp [Kind.ownedPaths], rest, rfl⟩, replacedBy same desired.step?_kind⟩
  · rcases ObjectMeta.replaced_of_at? below with
      ⟨further, rfl, rfl⟩ | ⟨label, owned, further, rfl, rfl⟩
    · refine ⟨⟨["metadata", "ownerReferences"], by simp [Kind.ownedPaths], further, rfl⟩, ?_⟩
      rw [← desired.seek_ownerReferences]
      rfl
    · refine ⟨⟨["metadata", "labels", label], by simp [Kind.ownedPaths, owned], further, rfl⟩, ?_⟩
      rw [← desired.seek_label]
      rfl
  · cases kind with
    | blockPool =>
      obtain ⟨rfl, same⟩ := Prod.mk.inj (List.mem_singleton.1 field)
      exact ⟨⟨["spec"], by simp [Kind.ownedPaths], rest, rfl⟩,
        replacedBy same desired.step?_spec_blockPool⟩
    | exporter =>
      obtain ⟨rfl, same⟩ := Prod.mk.inj (List.mem_singleton.1 field)
      exact ⟨⟨["spec"], by simp [Kind.ownedPaths], rest, rfl⟩,
        replacedBy same desired.step?_spec_exporter⟩
    | service =>
      rcases List.mem_pair.1 field with declaration | status
      · obtain ⟨rfl, same⟩ := Prod.mk.inj declaration
        obtain ⟨spec, declared⟩ := exists_spec_of_desired built
        split at same
        · rename_i given
          subst same
          rw [declared] at below
          obtain ⟨⟨key, owned, within⟩, rfl⟩ := ServiceSpec.replaced_of_at? below
          refine ⟨⟨["spec", key], by simp [Kind.ownedPaths, given, owned], ?_⟩, ?_⟩
          · exact List.cons_prefix_cons.2 ⟨rfl, within⟩
          · rw [desired.step?_spec_service, declared]
            rfl
        · rename_i absent
          exact ⟨⟨["spec"], by simp [Kind.ownedPaths, absent], rest, rfl⟩,
            replacedBy same desired.step?_spec_service⟩
      · obtain ⟨rfl, rfl⟩ := Prod.mk.inj status
        exact absurd below (Framed.firm.at?_ne_becomes rest value)

theorem exists_at?_of_owned (desired : Managed kind) {owned path : List String}
    (listed : owned ∈ kind.ownedPaths members) (within : owned <+: path) :
    ∃ value, (desired.frame members).at? path = some (.becomes value) := by
  obtain ⟨rest, rfl⟩ := within
  rcases List.mem_append.1 listed with listed | body
  · rcases List.mem_append.1 listed with plain | label
    · simp only [List.mem_cons, List.not_mem_nil, or_false] at plain
      rcases plain with rfl | rfl | rfl <;> exact ⟨_, Frame.at?_becomes _ rest⟩
    · simp only [operatorLabels, List.map_cons, List.map_nil, List.mem_cons, List.not_mem_nil,
        or_false] at label
      rcases label with rfl | rfl | rfl <;> exact ⟨_, Frame.at?_becomes _ rest⟩
  · cases kind with
    | blockPool | exporter =>
      obtain rfl := List.mem_singleton.1 body
      exact ⟨_, Frame.at?_becomes _ rest⟩
    | service =>
      have declared : ∀ rest, (desired.frame members).at? ("spec" :: rest) =
          (if (given? "spec" members).isSome then
            Frame.record ((ServiceBody.spec desired.body).getD {}).fields
          else .becomes ((ServiceBody.spec desired.body).map encode)).at? rest := fun _ => rfl
      change owned ∈ (if (given? "spec" members).isSome then _ else _) at body
      split at body
      · rename_i given
        obtain ⟨key, replaced, rfl⟩ := List.mem_map.1 body
        rw [List.cons_append, List.singleton_append, declared, if_pos given]
        exact ServiceSpec.exists_at?_of_owned _ replaced rest
      · rename_i absent
        obtain rfl := List.mem_singleton.1 body
        rw [List.singleton_append, declared, if_neg absent]
        exact ⟨_, Frame.at?_becomes _ rest⟩

/-- What the wanted object has is put in at the owned places and nowhere else. -/
theorem at?_eq_becomes_iff (built : kind.desired cluster scheme settings = .ok desired)
    {path : List String} {value : Option Json} :
    (desired.frame members).at? path = some (.becomes value) ↔
      (∃ owned ∈ kind.ownedPaths members, owned <+: path) ∧
        value = seek path (some (encode desired)) := by
  constructor
  · exact replaced_of_at? built
  · rintro ⟨⟨owned, listed, within⟩, rfl⟩
    obtain ⟨value, found⟩ := exists_at?_of_owned desired listed within
    rw [found, (replaced_of_at? built found).2]

theorem exists_owned_of_ports (kind : Kind) (members : Members) (rest : List String) :
    ∃ owned ∈ kind.ownedPaths members, owned <+: "spec" :: "ports" :: rest := by
  have whole : ["spec"] <+: "spec" :: "ports" :: rest := ⟨_, rfl⟩
  cases kind with
  | blockPool | exporter => exact ⟨["spec"], by simp [Kind.ownedPaths], whole⟩
  | service =>
    cases given : (given? "spec" members).isSome with
    | false => exact ⟨["spec"], by simp [Kind.ownedPaths, given], whole⟩
    | true =>
      refine ⟨["spec", "ports"], ?_, rest, rfl⟩
      simp [Kind.ownedPaths, given, ServiceSpec.ownedKeys]

/-! ### What is sent -/

theorem exists_given_of_decodeCustom {α : Type} [Codec α] {m : ObjectMeta} {spec : α}
    (read : decodeCustom? (.object members) = some (m, spec)) :
    ∃ json, given? "metadata" members = some json ∧ decode? json = some m := by
  simp only [decodeCustom?, Option.bind_eq_bind, Option.bind_eq_some_iff] at read
  obtain ⟨_, once, _, required, _, -, same⟩ := read
  obtain ⟨rfl, -⟩ := Prod.mk.inj (Option.some.inj same)
  obtain ⟨rfl, single⟩ := Record.of?_object_eq_some once
  obtain ⟨json, found, decoded⟩ := Option.bind_eq_some_iff.1 required
  have counts : json.isNull = false := by
    cases json with
    | null => cases decoded
    | _ => rfl
  exact ⟨json, Json.given?_of_lookup (single "metadata" List.mem_cons_self) found counts, decoded⟩

theorem parts_of_decodeService {m : ObjectMeta} {body : ServiceBody}
    (read : decodeService? (.object members) = some (m, body)) :
    members.orZero? "metadata" {} = some m ∧ members.optional? "spec" = some body.spec ∧
      members.optional? "status" = some body.status := by
  simp only [decodeService?, Json.members?, Option.bind_eq_bind, Option.bind_some] at read
  split at read
  · cases read
  · simp only [Option.bind_eq_some_iff] at read
    obtain ⟨_, metadata, _, spec, _, status, same⟩ := read
    obtain ⟨rfl, rfl⟩ := Prod.mk.inj (Option.some.inj same)
    exact ⟨metadata, spec, status⟩

theorem row_metadata (read : decodeParts? kind (.object members) = some (live.metadata, live.body))
    (built : kind.desired cluster scheme settings = .ok desired) :
    Row members "metadata" desired.metadata.frame
      (member "metadata" (live.merge desired).metadata) := by
  have labelled := hasOperatorLabels_of_desired built
  have inLine : (live.merge desired).metadata = live.metadata.inLine desired.metadata :=
    metadata_merge live desired
  rw [inLine]
  cases kind with
  | blockPool =>
    obtain ⟨json, given, decoded⟩ := exists_given_of_decodeCustom (α := BlockPoolSpec) read
    exact ObjectMeta.row_of_given labelled given decoded
  | exporter =>
    obtain ⟨json, given, decoded⟩ := exists_given_of_decodeCustom (α := ExporterSpec) read
    exact ObjectMeta.row_of_given labelled given decoded
  | service =>
    obtain ⟨found, optional, same⟩ := Option.map_eq_some_iff.1 (parts_of_decodeService read).1
    rw [← same]
    rcases Members.optional?_eq_some optional with ⟨rfl, none⟩ | ⟨json, found, given, decoded, rfl⟩
    · exact ObjectMeta.row_of_none labelled none
    · exact ObjectMeta.row_of_given labelled given decoded

theorem rows_bodyMembers
    (read : decodeParts? kind (.object members) = some (live.metadata, live.body))
    (built : kind.desired cluster scheme settings = .ok desired) :
    Rows members (desired.bodyFields members)
      (bodyMembers kind (live.merge desired).body) := by
  cases kind with
  | blockPool => exact .last (Frame.row_becomes (α := BlockPoolSpec) (some _))
  | exporter => exact .last (Frame.row_becomes (α := ExporterSpec) (some _))
  | service =>
    obtain ⟨-, declares, reports⟩ := parts_of_decodeService read
    obtain ⟨metadata, declared, status⟩ := live
    have reported :
        Row members "status" (Framed.frame ServiceStatus) (memberSome "status" status) :=
      Frame.row_optional reports
    obtain ⟨wanted, declares'⟩ := exists_spec_of_desired built
    rcases Members.optional?_eq_some declares with ⟨rfl, none⟩ | ⟨json, spec, given, decoded, rfl⟩
    · refine .next ?_ (.last reported)
      simp only [none, Option.isSome_none, Bool.false_eq_true, if_false]
      rw [declares']
      have put : ((ServiceBody.spec desired.body).getD {}) = wanted := by rw [declares']; rfl
      exact put ▸ Frame.row_becomes (some ((ServiceBody.spec desired.body).getD {}))
    · refine .next ?_ (.last reported)
      simp only [given, Option.isSome_some, if_true]
      rw [declares']
      refine ⟨some (encode (spec.inLine wanted)), ?_, ?_, ?_⟩
      · change memberSome "spec" (some (spec.inLine ((ServiceBody.spec desired.body).getD {}))) = _
        rw [declares']
        rfl
      · rw [given]
        exact ServiceSpec.agrees_inLine decoded wanted
      · rintro _ ⟨⟩
        rfl

/-- What is sent of an object that is brought in line is what the frame makes of its document. -/
theorem agrees_merge (read : decode? (Json.object members) = some live)
    (built : kind.desired cluster scheme settings = .ok desired) :
    (desired.frame members).Agrees (some (.object members))
      (some (encode (live.merge desired))) := by
  obtain ⟨⟨metadata, body⟩, decoded, rfl⟩ := Option.map_eq_some_iff.1 read
  have types : (desired.bodyFields members).map Prod.fst = ["spec"] ∨
      (desired.bodyFields members).map Prod.fst = ["spec", "status"] := by
    cases kind with
    | blockPool | exporter => exact .inl rfl
    | service => exact .inr rfl
  simp only [encode, List.append_assoc]
  refine Frame.agrees_record (.next (Frame.row_becomes (some _)) <|
    .next (Frame.row_becomes (some _)) <|
    .next (row_metadata decoded built) (rows_bodyMembers decoded built)) ?_
  rcases types with same | same <;> simp [same]

/-! ### What is sent of ports -/

theorem seek_port_of_desired (built : kind.desired cluster scheme settings = .ok desired)
    (position : String) {token : String} (other : token ∉ ServicePort.comparedKeys) :
    seek ["spec", "ports", position, token] (some (encode desired)) = none := by
  obtain ⟨parent, owner, -, -, -, rfl⟩ := Kind.exists_eq_of_desired built
  cases kind with
  | blockPool | exporter => rfl
  | service =>
    rw [Json.seek_cons, Option.bind_some, step?_spec_service]
    change seek ["ports", position, token] (some (encode (ServiceSpec.mk ..))) = none
    rw [Json.seek_cons, Option.bind_some, ServiceSpec.step?_ports]
    change ((Json.index? position).bind fun place => [encode (ServicePort.mk ..)][place]?).bind
      (step? token) = none
    cases Json.index? position with
    | none => rfl
    | some place =>
      cases place with
      | zero => exact ServicePort.step?_of_foreign rfl rfl other
      | succ => rfl

theorem port_of_agrees (built : kind.desired cluster scheme settings = .ok desired)
    {was : Option Json} {sent : Json} (agrees : (desired.frame members).Agrees was (some sent))
    (position token : String) (other : token ∉ ServicePort.comparedKeys) :
    seek ["spec", "ports", position, token] (some sent) = none := by
  have replaced := (at?_eq_becomes_iff built).2
    ⟨exists_owned_of_ports kind members [position, token], rfl⟩
  have sentIs := agrees ["spec", "ports", position, token]
  rw [replaced] at sentIs
  rw [← seek_port_of_desired built position other]
  exact sentIs

end Managed

end CephExport
