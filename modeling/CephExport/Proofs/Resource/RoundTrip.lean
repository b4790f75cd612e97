import CephExport.Proofs.Kube.Codec
import CephExport.Proofs.Resource.Parent
import CephExport.Store.World

/-!
Wanted objects as documents. What is sent for a wanted object reads back as that object, also once a
server has put an identity, a version and a time of its own into its metadata, and then it does not
differ from what is wanted.
-/

set_option autoImplicit false
set_option relaxedAutoImplicit false

namespace CephExport

/-- The document of a new object once a server has given it an identity, a version and a time. -/
def World.admitted (document : Json) (uid version time : String) : Json :=
  withMetadata (withMetadata (withMetadata document "uid" (.string uid))
    "resourceVersion" (.string version)) "creationTimestamp" (.string time)

namespace ObjectMeta

def admitted (m : ObjectMeta) (uid version : String) (time : Timestamp) : ObjectMeta :=
  { m with uid := some uid, resourceVersion := some version, creationTimestamp := some ⟨time⟩ }

end ObjectMeta

namespace Managed

variable {kind : Kind}

def admitted (object : Managed kind) (uid version : String) (time : Timestamp) : Managed kind :=
  { object with metadata := object.metadata.admitted uid version time }

def document (kind : Kind) (metadata : Json) (body : kind.Body) : Json :=
  .object (member "apiVersion" kind.apiVersion ++ member "kind" kind.name ++
    member "metadata" metadata ++ bodyMembers kind body)

theorem encode_eq_document (object : Managed kind) :
    encode object = document kind (encode object.metadata) object.body := rfl

theorem withMetadata_document (metadata : Json) (body : kind.Body) (key : String) (value : Json) :
    World.withMetadata (document kind metadata body) key value =
      document kind (metadata.setMember key value) body := by
  have found : (document kind metadata body).memberOrNull "metadata" = metadata := rfl
  rw [World.withMetadata, found]
  rfl

/-- Whether all that an object declares reads back: the states that a server observes may not. -/
def Declared : (kind : Kind) → kind.Body → Prop
  | .blockPool, _ | .exporter, _ => True
  | .service, (body : ServiceBody) => body.status = none

section

variable {metadata : Json} {m : ObjectMeta} (read : decode? metadata = some m)
  (given : metadata.isNull = false)
include read

private theorem decodeCustom?_members {α : Type} [Codec α] [LawfulCodec α]
    (apiVersion name : String) (spec : α) :
    decodeCustom? (.object (member "apiVersion" apiVersion ++ member "kind" name ++
      member "metadata" metadata ++ member "spec" spec)) = some (m, spec) := by
  have written : encode metadata = metadata := rfl
  have found : Record.readRequired (some metadata) = some m := by
    rw [Record.readRequired, Option.bind_some, read]
  simp [decodeCustom?, Record.of?, written, found]

include given

private theorem decodeService?_members (spec : Option ServiceSpec) :
    decodeService? (.object (member "apiVersion" "v1" ++ member "kind" "Service" ++
      member "metadata" metadata ++ memberSome "spec" spec)) = some (m, ⟨spec, none⟩) := by
  have written : encode metadata = metadata := rfl
  have found : readValues [metadata] = some (some m) := readValues_singleton_of read given
  have version : typeMember (member "apiVersion" "v1" ++ member "kind" "Service" ++
      member "metadata" metadata ++ memberSome "spec" spec) "apiVersion" "v1" = true := by
    simp [typeMember, encode, Json.string?]
  have type : typeMember (member "apiVersion" "v1" ++ member "kind" "Service" ++
      member "metadata" metadata ++ memberSome "spec" spec) "kind" "Service" = true := by
    simp [typeMember, encode, Json.string?]
  simp only [decodeService?, Json.members?, Option.bind_eq_bind, Option.bind_some, version, type]
  simp [written, found]

theorem decode?_document {body : kind.Body} (declared : Declared kind body) :
    decode? (document kind metadata body) = some (⟨m, body⟩ : Managed kind) := by
  have parts : decodeParts? kind (document kind metadata body) = some (m, body) := by
    cases kind with
    | blockPool => exact decodeCustom?_members (α := BlockPoolSpec) read _ _ body
    | exporter => exact decodeCustom?_members (α := ExporterSpec) read _ _ body
    | service =>
      obtain ⟨spec, status⟩ := body
      obtain rfl : status = none := declared
      have plain : document .service metadata (⟨spec, none⟩ : ServiceBody) =
          .object (member "apiVersion" "v1" ++ member "kind" "Service" ++
            member "metadata" metadata ++ memberSome "spec" spec) := by
        simp [document, bodyMembers, memberSome, Kind.apiVersion, Kind.name]
      rw [plain]
      exact decodeService?_members read given spec
  simp only [decode?, parts, Option.map_some]

end

end Managed

namespace ObjectMeta

variable (name «namespace» : String) (owner : OwnerReference) (component : String)

theorem decode?_managedMetadata :
    decode? (encode (managedMetadata name «namespace» owner component)) =
      some (managedMetadata name «namespace» owner component) := by
  refine decode?_eq_some_iff.2 ⟨_, rfl, ?_⟩
  constructor <;> simp [managedMetadata]

theorem transferred_managedMetadata :
    (encode (managedMetadata name «namespace» owner component) : Json).transferred =
      encode (managedMetadata name «namespace» owner component) := by
  simp only [encode, managedMetadata]
  simp [memberSome, Json.transferred.transferredMembers]

def admittedMembers (uid version time : String) : Members :=
  [("creationTimestamp", encode time), ("labels", encode (managedLabels owner.name component)),
    ("name", encode name), ("namespace", encode «namespace»), ("ownerReferences", encode [owner]),
    ("resourceVersion", encode version), ("uid", encode uid)]

theorem setMembers_managedMetadata (uid version time : String) :
    (((encode (managedMetadata name «namespace» owner component)).setMember
        "uid" (encode uid)).setMember
        "resourceVersion" (encode version)).setMember "creationTimestamp" (encode time) =
      .object (admittedMembers name «namespace» owner component uid version time) := by
  have plain : encode (managedMetadata name «namespace» owner component) =
      .object (member "labels" (managedLabels owner.name component) ++ member "name" name ++
        member "namespace" «namespace» ++ member "ownerReferences" [owner]) := by
    simp only [encode, managedMetadata]
    simp [memberSome, member]
  rw [plain]
  simp only [Json.setMember, insertMember, member, admittedMembers, List.cons_append,
    List.nil_append, String.reduceLT, String.reduceEq, if_true, if_false]

theorem decode?_admittedMembers {uid version time : String} {t : Timestamp}
    (read : Timestamp.parse? time = some t) :
    decode? (.object (admittedMembers name «namespace» owner component uid version time)) =
      some ((managedMetadata name «namespace» owner component).admitted uid version t) := by
  have created : readValues (α := MetaTime) [encode time] = some (some ⟨t⟩) := by
    refine readValues_singleton_of ?_ (isNull_encode time)
    simp [decode?, encode, Json.string?, read]
  refine decode?_eq_some_iff.2 ⟨_, rfl, ?_⟩
  constructor <;> simp [managedMetadata, admitted, admittedMembers, Json.valuesOf_cons, created]

theorem transferred_admittedMembers (uid version time : String) :
    (Json.object (admittedMembers name «namespace» owner component uid version time)).transferred =
      .object (admittedMembers name «namespace» owner component uid version time) := by
  simp [admittedMembers, Json.transferred.transferredMembers]

end ObjectMeta

/-! ### Wanted objects -/

namespace Kind

variable {kind : Kind} {cluster : Cluster} {scheme : OwnerScheme} {settings : Settings}
  {desired : Managed kind}

theorem declared_of_desired (built : kind.desired cluster scheme settings = .ok desired) :
    Managed.Declared kind desired.body := by
  obtain ⟨parent, owner, placed, owned, -⟩ := exists_parent_of_desired built
  rw [desired_of_isAt placed owned] at built
  obtain rfl := Except.ok.inj built
  cases kind with
  | blockPool | exporter => trivial
  | service => rfl

theorem transferred_nfsPoolRatio :
    (encode nfsPoolRatio : Json).transferred = encode nfsPoolRatio := rfl

theorem transferred_desiredPool (cluster : Cluster) (settings : ControllerSettings) :
    (encode (desiredPool cluster settings) : Json).transferred =
      encode (desiredPool cluster settings) := by
  have ratio :
      Json.transferred.transferredMembers (memberSome "targetSizeRatio" (some nfsPoolRatio)) =
        memberSome "targetSizeRatio" (some nfsPoolRatio) :=
    transferredMembers_member_of transferred_nfsPoolRatio
  have replicated : (encode (desiredPool cluster settings).replicated : Json).transferred =
      encode (desiredPool cluster settings).replicated := by
    simp only [encode, desiredPool]
    simp [ratio]
  have written :
      Json.transferred.transferredMembers
          (member "replicated" (desiredPool cluster settings).replicated) =
        member "replicated" (desiredPool cluster settings).replicated :=
    transferredMembers_member_of replicated
  simp only [encode]
  simp [written]

theorem transferred_desiredBody (kind : Kind) (cluster : Cluster) (owner : OwnerReference)
    (settings : ControllerSettings) :
    Json.transferred.transferredMembers
      (Managed.bodyMembers kind (desiredBody cluster owner settings kind)) =
      Managed.bodyMembers kind (desiredBody cluster owner settings kind) := by
  cases kind with
  | blockPool => exact transferredMembers_member_of (transferred_desiredPool cluster settings)
  | exporter => exact transferredMembers_member (α := ExporterSpec) "spec" _
  | service =>
    -- No status is wanted, so that nothing is written behind what is declared.
    change Json.transferred.transferredMembers
      (memberSome "spec" (desiredService cluster owner).spec ++ []) =
      memberSome "spec" (desiredService cluster owner).spec ++ []
    rw [List.append_nil]
    exact transferredMembers_memberSome "spec" _

theorem transferred_document {metadata : Json} (steady : metadata.transferred = metadata)
    (owner : OwnerReference) :
    (Managed.document kind metadata
      (desiredBody cluster owner settings.controller kind)).transferred =
      Managed.document kind metadata (desiredBody cluster owner settings.controller kind) := by
  have body := transferred_desiredBody kind cluster owner settings.controller
  have sent : Json.transferred.transferredMembers (member "metadata" metadata) =
      member "metadata" metadata :=
    transferredMembers_member_of steady
  simp [Managed.document, body, sent]

/-- What is sent for a wanted object: it is the same as text, reads back as the object, and does so
with what a server adds to it, which is still the same as text. -/
theorem sent_of_desired (built : kind.desired cluster scheme settings = .ok desired) :
    (encode desired : Json).transferred = encode desired ∧ decode? (encode desired) = some desired ∧
      ∀ (uid version time : String) (t : Timestamp), Timestamp.parse? time = some t →
        (World.admitted (encode desired) uid version time).transferred =
          World.admitted (encode desired) uid version time ∧
        decode? (World.admitted (encode desired) uid version time) =
          some (desired.admitted uid version t) := by
  have declared := declared_of_desired built
  obtain ⟨parent, owner, placed, owned, -⟩ := exists_parent_of_desired built
  rw [desired_of_isAt placed owned] at built
  obtain rfl := Except.ok.inj built
  refine ⟨?_, ?_, ?_⟩
  · exact transferred_document (ObjectMeta.transferred_managedMetadata _ _ _ _) owner
  · exact Managed.decode?_document (ObjectMeta.decode?_managedMetadata _ _ _ _) rfl declared
  · intro uid version time t read
    have kept :
        World.admitted
            (encode (⟨managedMetadata (kind.home parent).name parent.namespace owner kind.tag,
              desiredBody cluster owner settings.controller kind⟩ : Managed kind))
            uid version time =
          Managed.document kind
            (.object (ObjectMeta.admittedMembers (kind.home parent).name parent.namespace owner
              kind.tag uid version time))
            (desiredBody cluster owner settings.controller kind) := by
      rw [World.admitted, Managed.encode_eq_document, Managed.withMetadata_document,
        Managed.withMetadata_document, Managed.withMetadata_document]
      exact congrArg (Managed.document kind · _)
        (ObjectMeta.setMembers_managedMetadata _ _ _ _ uid version time)
    rw [kept]
    constructor
    · exact transferred_document
        (ObjectMeta.transferred_admittedMembers _ _ _ _ uid version time) owner
    · exact Managed.decode?_document (ObjectMeta.decode?_admittedMembers _ _ _ _ read) rfl declared

theorem not_drifted_admitted (desired : Managed kind) (uid version : String) (time : Timestamp) :
    (desired.admitted uid version time).drifted desired = false := by
  have same : (desired.admitted uid version time).drifted desired = desired.drifted desired :=
    Managed.drifted_congr desired rfl rfl rfl
  rw [same, Managed.not_drifted_self]

end Kind

end CephExport
