import CephExport.Proofs.Pass.Course
import CephExport.Proofs.Resource.Conformity
import Mathlib.Tactic.TFAE

/-!
Where the passes over the resources of a cluster look for them. The wanted object, the pass that
creates it and the pass that deletes it each work out its key on their own, and come to the same
one. The Service finds the pods of the exporter by the name that the exporter goes by.
-/

set_option autoImplicit false
set_option relaxedAutoImplicit false

namespace CephExport

namespace Pass

variable {α : Type}

def FailsAtOnce (pass : Pass α) (error : OperatorError) : Prop :=
  ∀ exchanges events result, pass.Ends exchanges events result ↔
    exchanges = [] ∧ events = [] ∧ result = .error error

/-- However it is answered, the pass begins with a reading at a place, and all it calls for is about
the object there. -/
def KeepsTo (pass : Pass α) (kind : Kind) (key : ObjectKey) : Prop :=
  ∀ exchanges events result, pass.Ends exchanges events result →
    (∃ answer, exchanges.head? = some ⟨.get kind key, answer⟩) ∧
      ∀ exchange ∈ exchanges, exchange.Concerns ⟨kind, key⟩

theorem failsAtOnce_fail (error : OperatorError) : (fail error : Pass α).FailsAtOnce error :=
  fun _ _ _ => ends_fail_iff

end Pass

namespace Kind

variable {kind : Kind} {key : ObjectKey}

theorem deleteAt_keepsTo (kind : Kind) (key : ObjectKey) :
    (kind.deleteAt key).KeepsTo kind key := by
  intro exchanges events result ended
  have removal := removal_of_ends ended
  refine ⟨?_, removal.concerns⟩
  cases removal <;> exact ⟨_, rfl⟩

theorem createAt_keepsTo {desired : Managed kind}
    (named : desired.metadata.displayName = key.name) :
    (kind.createAt key desired).KeepsTo kind key := by
  intro exchanges events result ended
  have provision := provision_of_ends ended
  refine ⟨?_, provision.concerns named⟩
  cases provision <;> exact ⟨_, rfl⟩

/-- The key that a cluster has for its resource of a kind is the one that the wanted object has
itself, and the passes that create and delete the resource keep to it. -/
structure HasKey (kind : Kind) (policy : Policy) (cluster : Cluster) (desired : Managed kind)
    (key : ObjectKey) :
    Prop where
  «namespace» : cluster.metadata.namespace = some key.namespace
  nameFor : kind.nameFor cluster = .ok key.name
  ownNamespace : desired.metadata.namespace = some key.namespace
  ownName : desired.metadata.name = some key.name
  creates : (kind.ensureCreated policy cluster).KeepsTo kind key
  deletes : (kind.ensureDeleted cluster).KeepsTo kind key

variable {policy : Policy} {cluster : Cluster} {parent : ObjectKey}

theorem ensureDeleted_keepsTo (placed : cluster.IsAt parent) :
    (kind.ensureDeleted cluster).KeepsTo kind (kind.home parent) := by
  rw [ensureDeleted_of_isAt placed]
  exact deleteAt_keepsTo kind (kind.home parent)

theorem ensureCreated_keepsTo {desired : Managed kind} (placed : cluster.IsAt parent)
    (built : kind.desired cluster policy.scheme policy.settings = .ok desired) :
    (kind.ensureCreated policy cluster).KeepsTo kind (kind.home parent) := by
  cases wanted : kind.shouldExist cluster with
  | false =>
    rw [ensureCreated_of_unwanted wanted]
    exact ensureDeleted_keepsTo placed
  | true =>
    rw [ensureCreated_of_built wanted placed built]
    exact createAt_keepsTo (displayName_of_desired placed built)

theorem hasKey_of_desired {desired : Managed kind} (placed : cluster.IsAt parent)
    (built : kind.desired cluster policy.scheme policy.settings = .ok desired) :
    kind.HasKey policy cluster desired (kind.home parent) := by
  obtain ⟨owner, -, metadata⟩ := metadata_of_desired placed built
  exact {
    «namespace» := placed.namespace
    nameFor := nameFor_of_isAt placed
    ownNamespace := by
      rw [metadata]
      rfl
    ownName := by
      rw [metadata]
      rfl
    creates := ensureCreated_keepsTo placed built
    deletes := ensureDeleted_keepsTo placed }

theorem selector_of_desired {desired : Managed .service} {name : String}
    (built : service.desired cluster policy.scheme policy.settings = .ok desired)
    (named : exporter.nameFor cluster = .ok name) :
    (ServiceBody.selector desired.body).bind (·.get? "ceph_nfs") = some name := by
  obtain ⟨parent, owner, placed, -, ownerName, rfl⟩ := exists_eq_of_desired built
  have same : name = deriveName owner.name exporter.tag := by
    rw [nameFor_of_isAt placed] at named
    rw [ownerName]
    exact (Except.ok.inj named).symm
  rw [same]
  change (KeyMap.ofList [("app", nfsAppLabel),
    ("ceph_nfs", deriveName owner.name exporter.tag)]).get? "ceph_nfs" = _
  simp [KeyMap.get?, KeyMap.ofList, sortMembers, lookup_insertMember]

end Kind

namespace Cluster

/-- Where the resources of a cluster are, for all that builds them, makes them, removes them and
refers to them. -/
structure Addressing (policy : Policy) (cluster : Cluster) : Prop where
  /-- The objects of all kinds can be built or none. -/
  built : ∀ kind : Kind, List.TFAE [
    ∃ desired, kind.desired cluster policy.scheme policy.settings = .ok desired,
    ∀ other : Kind, ∃ desired, other.desired cluster policy.scheme policy.settings = .ok desired,
    cluster.IsAddressable]
  refused : ∀ (kind : Kind) error,
    kind.desired cluster policy.scheme policy.settings = .error error ↔ cluster.LacksFirst error
  idle : cluster.nfsEnabled = true → ∀ (kind : Kind) error, cluster.LacksFirst error →
    (kind.ensureCreated policy cluster).FailsAtOnce error
  /-- A resource can be removed without knowing the identity of the cluster. -/
  deletes : ∀ (kind : Kind) parent, cluster.IsAt parent →
    (kind.ensureDeleted cluster).KeepsTo kind (kind.home parent)
  unplaced : ∀ (kind : Kind) error, cluster.LacksPlace error →
    (kind.ensureDeleted cluster).FailsAtOnce error
  keyed : ∀ (kind : Kind) desired,
    kind.desired cluster policy.scheme policy.settings = .ok desired →
    ∃ key, kind.HasKey policy cluster desired key
  /-- The pods behind the Service are those of the exporter that is kept. -/
  selected : ∀ desired name,
    Kind.service.desired cluster policy.scheme policy.settings = .ok desired →
    Kind.exporter.nameFor cluster = .ok name →
    (ServiceBody.selector desired.body).bind (·.get? "ceph_nfs") = some name

/-- Whatever a cluster is called, its resources are looked for where they are made. -/
theorem addressing (policy : Policy) (cluster : Cluster) : cluster.Addressing policy where
  built kind := by
    tfae_have 1 ↔ 3 := Kind.exists_desired_iff
    tfae_have 3 → 2 := fun addressable _ => Kind.exists_desired_iff.2 addressable
    tfae_have 2 → 1 := fun all => all kind
    tfae_finish
  refused _ _ := Kind.desired_eq_error_iff
  idle enabled kind error lacks := by
    rw [Kind.ensureCreated_of_unbuilt enabled (Kind.desired_eq_error_iff.2 lacks)]
    exact Pass.failsAtOnce_fail error
  deletes _ _ placed := Kind.ensureDeleted_keepsTo placed
  unplaced kind error unplaced := by
    rw [Kind.ensureDeleted, Kind.keyFor_eq_error_iff.2 unplaced]
    exact Pass.failsAtOnce_fail error
  keyed _ _ built := by
    obtain ⟨parent, -, placed, -⟩ := Kind.exists_parent_of_desired built
    exact ⟨_, Kind.hasKey_of_desired placed built⟩
  selected _ _ built named := Kind.selector_of_desired built named

end Cluster

end CephExport
