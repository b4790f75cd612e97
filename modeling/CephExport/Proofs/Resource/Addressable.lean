import CephExport.Proofs.Resource.Parent

/-!
What a cluster must have for its resources to be found and to be made, and which of it is reported
as missing.
-/

set_option autoImplicit false
set_option relaxedAutoImplicit false

namespace CephExport

namespace Cluster

/-- The cluster has all that its resources are named by and owned through. -/
structure IsAddressable (cluster : Cluster) : Prop where
  name : cluster.metadata.name ≠ none
  «namespace» : cluster.metadata.namespace ≠ none
  uid : cluster.metadata.uid ≠ none

inductive LacksPlace (cluster : Cluster) : OperatorError → Prop
  | name (missing : cluster.metadata.name = none) :
      LacksPlace cluster (.missingKey "Expected StorageCluster to have metadata.name")
  | «namespace» {name : String} (named : cluster.metadata.name = some name)
      (missing : cluster.metadata.namespace = none) :
      LacksPlace cluster
        (.missingKey "Expected StorageCluster to be namespaced via metadata.namespace")

/-- The first thing that a cluster lacks for its resources to be made, and the error that tells
so. -/
inductive LacksFirst (cluster : Cluster) : OperatorError → Prop
  | place {error : OperatorError} (unplaced : cluster.LacksPlace error) : LacksFirst cluster error
  | uid {parent : ObjectKey} (placed : cluster.IsAt parent)
      (missing : cluster.metadata.uid = none) :
      LacksFirst cluster (.missingKey "Expected parent to have metadata.uid")

variable {cluster : Cluster}

theorem isAt_or_lacksPlace (cluster : Cluster) :
    (∃ parent, cluster.IsAt parent) ∨ ∃ error, cluster.LacksPlace error := by
  cases name : cluster.metadata.name with
  | none => exact .inr ⟨_, .name name⟩
  | some own =>
    cases space : cluster.metadata.namespace with
    | none => exact .inr ⟨_, .namespace name space⟩
    | some given => exact .inl ⟨⟨given, own⟩, name, space⟩

theorem isAddressable_iff : cluster.IsAddressable ↔
    ∃ parent uid, cluster.IsAt parent ∧ cluster.metadata.uid = some uid := by
  constructor
  · intro h
    obtain ⟨name, named⟩ := Option.ne_none_iff_exists'.1 h.name
    obtain ⟨space, spaced⟩ := Option.ne_none_iff_exists'.1 h.namespace
    obtain ⟨uid, identified⟩ := Option.ne_none_iff_exists'.1 h.uid
    exact ⟨⟨space, name⟩, uid, ⟨named, spaced⟩, identified⟩
  · rintro ⟨parent, uid, placed, identified⟩
    exact {
      name := by simp [placed.name]
      «namespace» := by simp [placed.namespace]
      uid := by simp [identified] }

theorem isAddressable_or_lacksFirst (cluster : Cluster) :
    cluster.IsAddressable ∨ ∃ error, cluster.LacksFirst error := by
  rcases cluster.isAt_or_lacksPlace with ⟨parent, placed⟩ | ⟨error, unplaced⟩
  · cases uid : cluster.metadata.uid with
    | none => exact .inr ⟨_, .uid placed uid⟩
    | some identity => exact .inl (isAddressable_iff.2 ⟨parent, identity, placed, uid⟩)
  · exact .inr ⟨error, .place unplaced⟩

end Cluster

namespace Kind

variable {kind : Kind} {cluster : Cluster} {parent : ObjectKey} {scheme : OwnerScheme}
  {settings : Settings} {error : OperatorError}

theorem nameFor_of_isAt (placed : cluster.IsAt parent) :
    kind.nameFor cluster = .ok (kind.home parent).name := by
  rw [nameFor, placed.name]
  rfl

theorem keyFor_of_lacksPlace (unplaced : cluster.LacksPlace error) :
    kind.keyFor cluster = .error error := by
  cases unplaced with
  | name missing => simp only [keyFor, nameFor, missing, bind, Except.bind]
  | «namespace» named missing =>
    simp only [keyFor, nameFor, Cluster.namespaceOf, named, missing, bind, Except.bind]

theorem keyFor_eq_error_iff : kind.keyFor cluster = .error error ↔ cluster.LacksPlace error := by
  constructor
  · intro failed
    rcases cluster.isAt_or_lacksPlace with ⟨parent, placed⟩ | ⟨other, unplaced⟩
    · cases (keyFor_of_isAt kind placed).symm.trans failed
    · obtain rfl : other = error :=
        Except.error.inj ((keyFor_of_lacksPlace unplaced).symm.trans failed)
      exact unplaced
  · exact keyFor_of_lacksPlace

theorem desired_of_lacksFirst (lacks : cluster.LacksFirst error) :
    kind.desired cluster scheme settings = .error error := by
  cases lacks with
  | place unplaced =>
    cases unplaced with
    | name missing => simp only [Kind.desired, nameFor, missing, bind, Except.bind]
    | «namespace» named missing =>
      simp only [Kind.desired, nameFor, Cluster.namespaceOf, named, missing, bind, Except.bind]
  | uid placed missing =>
    simp only [Kind.desired, nameFor, Cluster.namespaceOf, OwnerScheme.controllerRef, placed.name,
      placed.namespace, missing, bind, Except.bind]

theorem exists_desired_iff :
    (∃ desired, kind.desired cluster scheme settings = .ok desired) ↔ cluster.IsAddressable := by
  constructor
  · rintro ⟨desired, built⟩
    rcases cluster.isAddressable_or_lacksFirst with addressable | ⟨error, lacks⟩
    · exact addressable
    · cases built.symm.trans (desired_of_lacksFirst lacks)
  · intro addressable
    obtain ⟨parent, uid, placed, identified⟩ := Cluster.isAddressable_iff.1 addressable
    obtain ⟨owner, owned⟩ := scheme.exists_controllerRef placed.name identified
    exact ⟨_, desired_of_isAt placed owned⟩

/-- Of what a cluster lacks for its resources to be made, the first is reported. -/
theorem desired_eq_error_iff :
    kind.desired cluster scheme settings = .error error ↔ cluster.LacksFirst error := by
  constructor
  · intro unbuilt
    rcases cluster.isAddressable_or_lacksFirst with addressable | ⟨other, lacks⟩
    · obtain ⟨desired, built⟩ : ∃ desired, kind.desired cluster scheme settings = .ok desired :=
        exists_desired_iff.2 addressable
      cases built.symm.trans unbuilt
    · obtain rfl : other = error :=
        Except.error.inj ((desired_of_lacksFirst lacks).symm.trans unbuilt)
      exact lacks
  · exact desired_of_lacksFirst

end Kind

end CephExport
