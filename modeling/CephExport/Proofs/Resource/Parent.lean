import CephExport.Reconcile.Resource
import CephExport.Proofs.Pass.Discipline
import CephExport.Proofs.Resource.Merge

/-!
The places of the resources that belong to a parent, and what the wanted objects of all its forms
have in common.
-/

set_option autoImplicit false
set_option relaxedAutoImplicit false

namespace CephExport

structure Cluster.IsAt (cluster : Cluster) (parent : ObjectKey) : Prop where
  name : cluster.metadata.name = some parent.name
  «namespace» : cluster.metadata.namespace = some parent.namespace

theorem Cluster.IsAt.unique {cluster : Cluster} {parent other : ObjectKey} (h : cluster.IsAt parent)
    (h' : cluster.IsAt other) : parent = other := by
  have name := Option.some.inj (h.name.symm.trans h'.name)
  have space := Option.some.inj (h.namespace.symm.trans h'.namespace)
  cases parent
  cases other
  simp_all

namespace Kind

/-- The order in which the resources of a cluster are created. -/
def rank : Kind → Nat
  | blockPool => 0
  | exporter => 1
  | service => 2

theorem rank_injective {kind other : Kind} (h : kind.rank = other.rank) : kind = other := by
  cases kind <;> cases other <;> first | rfl | cases h

theorem name_injective {kind other : Kind} (h : kind.name = other.name) : kind = other := by
  cases kind <;> cases other <;> first | rfl | exact absurd h (by decide)

theorem rank_lt (kind : Kind) : kind.rank < 3 := by
  cases kind <;> decide

def home (kind : Kind) (parent : ObjectKey) : ObjectKey :=
  ⟨parent.namespace, deriveName parent.name kind.tag⟩

abbrev place (kind : Kind) (parent : ObjectKey) : Place := ⟨kind, kind.home parent⟩

theorem place_ne {kind other : Kind} (h : other ≠ kind) (parent : ObjectKey) :
    other.place parent ≠ kind.place parent := by
  intro same
  exact h (congrArg Place.kind same)

theorem keyFor_of_isAt (kind : Kind) {cluster : Cluster} {parent : ObjectKey}
    (h : cluster.IsAt parent) :
    kind.keyFor cluster = .ok (kind.home parent) := by
  simp only [keyFor, nameFor, Cluster.namespaceOf, h.name, h.namespace]
  rfl

theorem exists_parent_of_keyFor {kind : Kind} {cluster : Cluster} {key : ObjectKey}
    (h : kind.keyFor cluster = .ok key) :
    ∃ parent, cluster.IsAt parent ∧ key = kind.home parent := by
  cases name : cluster.metadata.name with
  | none => simp [keyFor, nameFor, name, bind, Except.bind] at h
  | some parentName =>
    cases space : cluster.metadata.namespace with
    | none => simp [keyFor, nameFor, Cluster.namespaceOf, name, space, bind, Except.bind] at h
    | some parentSpace =>
      have placed : cluster.IsAt ⟨parentSpace, parentName⟩ := ⟨name, space⟩
      rw [keyFor_of_isAt kind placed] at h
      exact ⟨⟨parentSpace, parentName⟩, placed, (Except.ok.inj h).symm⟩

end Kind

/-- An owner is a parent of some type that controls what it owns and waits for it when it is deleted
itself. -/
structure OwnerReference.Controls (owner : OwnerReference) (scheme : OwnerScheme)
    (parent : ObjectMeta) : Prop where
  apiVersion : owner.apiVersion = scheme.apiVersion
  kind : owner.kind = scheme.kind
  name : parent.name = some owner.name
  uid : parent.uid = some owner.uid
  controller : owner.controller = some true
  blockOwnerDeletion : owner.blockOwnerDeletion = some true

theorem OwnerScheme.controllerRef_eq_ok_iff {scheme : OwnerScheme} {parent : ObjectMeta}
    {owner : OwnerReference} :
    scheme.controllerRef parent = .ok owner ↔ owner.Controls scheme parent := by
  constructor
  · intro owned
    unfold controllerRef at owned
    split at owned
    · cases owned
    · cases owned
    · rename_i named identified
      obtain rfl := Except.ok.inj owned
      exact ⟨rfl, rfl, named, identified, rfl, rfl⟩
  · intro controls
    rw [controllerRef, controls.name, controls.uid]
    obtain ⟨apiVersion, kind, -, -, controller, blocks⟩ := controls
    cases owner
    simp_all

theorem OwnerScheme.exists_controllerRef (scheme : OwnerScheme) {parent : ObjectMeta}
    {name uid : String} (named : parent.name = some name) (identified : parent.uid = some uid) :
    ∃ owner, scheme.controllerRef parent = .ok owner := by
  rw [controllerRef, named, identified]
  exact ⟨_, rfl⟩

namespace Kind

variable {kind : Kind} {cluster : Cluster} {parent : ObjectKey} {scheme : OwnerScheme}
  {settings : Settings} {owner : OwnerReference}

theorem desired_of_isAt (h : cluster.IsAt parent)
    (owned : scheme.controllerRef cluster.metadata = .ok owner) :
    kind.desired cluster scheme settings = .ok
      ⟨managedMetadata (kind.home parent).name parent.namespace owner kind.tag,
        desiredBody cluster owner settings.controller kind⟩ := by
  simp only [Kind.desired, nameFor, Cluster.namespaceOf, h.name, h.namespace, owned]
  rfl

/-- A wanted object exists only for a cluster with a name, a namespace and an identity, and its
metadata comes from these. -/
theorem exists_parent_of_desired {desired : Managed kind}
    (h : kind.desired cluster scheme settings = .ok desired) :
    ∃ parent owner, cluster.IsAt parent ∧ scheme.controllerRef cluster.metadata = .ok owner ∧
      desired.metadata =
        managedMetadata (kind.home parent).name parent.namespace owner kind.tag := by
  cases name : cluster.metadata.name with
  | none => simp [Kind.desired, nameFor, name, bind, Except.bind] at h
  | some parentName =>
    cases space : cluster.metadata.namespace with
    | none => simp [Kind.desired, nameFor, Cluster.namespaceOf, name, space, bind, Except.bind] at h
    | some parentSpace =>
      have placed : cluster.IsAt ⟨parentSpace, parentName⟩ := ⟨name, space⟩
      cases owned : scheme.controllerRef cluster.metadata with
      | error error =>
        simp [Kind.desired, nameFor, Cluster.namespaceOf, name, space, owned, bind,
          Except.bind] at h
      | ok owner =>
        rw [desired_of_isAt placed owned] at h
        obtain rfl := Except.ok.inj h
        exact ⟨⟨parentSpace, parentName⟩, owner, placed, rfl, rfl⟩

theorem metadata_of_desired {desired : Managed kind} (placed : cluster.IsAt parent)
    (h : kind.desired cluster scheme settings = .ok desired) :
    ∃ owner, scheme.controllerRef cluster.metadata = .ok owner ∧
      desired.metadata =
        managedMetadata (kind.home parent).name parent.namespace owner kind.tag := by
  obtain ⟨other, owner, also, owned, metadata⟩ := exists_parent_of_desired h
  obtain rfl : other = parent := also.unique placed
  exact ⟨owner, owned, metadata⟩

theorem displayName_of_desired {desired : Managed kind} (placed : cluster.IsAt parent)
    (h : kind.desired cluster scheme settings = .ok desired) :
    desired.metadata.displayName = (kind.home parent).name := by
  obtain ⟨owner, -, metadata⟩ := metadata_of_desired placed h
  rw [metadata]
  rfl

theorem isDeleting_of_desired {desired : Managed kind}
    (h : kind.desired cluster scheme settings = .ok desired) :
    desired.metadata.isDeleting = false := by
  obtain ⟨parent, owner, -, -, metadata⟩ := exists_parent_of_desired h
  rw [metadata]
  rfl

theorem get?_labelMap_of_desired {desired : Managed kind} {key : String}
    (foreign : ¬IsOperatorLabel key) (h : kind.desired cluster scheme settings = .ok desired) :
    desired.metadata.labelMap.get? key = none := by
  obtain ⟨parent, owner, -, -, metadata⟩ := exists_parent_of_desired h
  rw [metadata]
  exact get?_managedLabels foreign owner.name kind.tag

end Kind

/-- A cluster that exports NFS, for runs over a concrete one. -/
def Cluster.sample : Cluster where
  metadata := { name := some "ceph", «namespace» := some "rook", uid := some "7c1f" }
  spec := { nfs := some { enable := true } }
  status := none

def Cluster.sampleKey : ObjectKey := ⟨"rook", "ceph"⟩

theorem Cluster.sample_isAt : Cluster.sample.IsAt Cluster.sampleKey := ⟨rfl, rfl⟩

end CephExport
