import CephExport.Proofs.Resource.Parent

/-!
What is true of a resource that does not differ from the one that its cluster wants: it has the
cluster as its only owner and the operator's labels.
-/

set_option autoImplicit false
set_option relaxedAutoImplicit false

namespace CephExport

theorem get?_of_not_labelsDrifted {live desired : KeyMap String} {key value : String}
    (same : labelsDrifted live desired = false) (wanted : desired.get? key = some value) :
    live.get? key = some value := by
  rw [labelsDrifted, KeyMap.any, List.any_eq_false] at same
  simpa using same _ (KeyMap.mem_of_get? wanted)

section

variable (parent component : String)

theorem get?_managedBy :
    (managedLabels parent component).get? managedByLabel = some operatorName := by
  simp [managedLabels, KeyMap.get?, KeyMap.ofList, sortMembers, lookup_insertMember, managedByLabel,
    partOfLabel, componentLabel]

theorem get?_partOf : (managedLabels parent component).get? partOfLabel = some parent := by
  simp [managedLabels, KeyMap.get?, KeyMap.ofList, sortMembers, lookup_insertMember, managedByLabel,
    partOfLabel, componentLabel]

theorem get?_component : (managedLabels parent component).get? componentLabel = some component := by
  simp [managedLabels, KeyMap.get?, KeyMap.ofList, sortMembers, lookup_insertMember, managedByLabel,
    partOfLabel, componentLabel]

end

/-- A wanted object in full: its metadata and its body come from the parent and from the reference
to it. -/
theorem Kind.exists_eq_of_desired {kind : Kind} {cluster : Cluster} {scheme : OwnerScheme}
    {settings : Settings} {desired : Managed kind}
    (built : kind.desired cluster scheme settings = .ok desired) :
    ∃ parent owner, cluster.IsAt parent ∧ scheme.controllerRef cluster.metadata = .ok owner ∧
      owner.name = parent.name ∧
      desired = ⟨managedMetadata (kind.home parent).name parent.namespace owner kind.tag,
        desiredBody cluster owner settings.controller kind⟩ := by
  obtain ⟨parent, owner, placed, owned, -⟩ := exists_parent_of_desired built
  have named : owner.name = parent.name :=
    Option.some.inj ((OwnerScheme.controllerRef_eq_ok_iff.1 owned).name.symm.trans placed.name)
  rw [desired_of_isAt placed owned] at built
  exact ⟨parent, owner, placed, owned, named, (Except.ok.inj built).symm⟩

namespace Managed

variable {kind : Kind}

/-- A resource is as its cluster wants it, and has kept the labels that others had set on what was
there before. -/
structure Conforms (policy : Policy) (cluster : Cluster) (old : Option (Managed kind))
    (live : Managed kind) : Prop where
  inSync : ∃ desired, kind.desired cluster policy.scheme policy.settings = .ok desired ∧
    live.drifted desired = false
  owned : ∃ owner, policy.scheme.controllerRef cluster.metadata = .ok owner ∧
    owner.Controls policy.scheme cluster.metadata ∧ live.metadata.owners = [owner]
  managedBy : live.metadata.labelMap.get? managedByLabel = some operatorName
  partOf : live.metadata.labelMap.get? partOfLabel = cluster.metadata.name
  component : live.metadata.labelMap.get? componentLabel = some kind.tag
  others : ∀ key, ¬IsOperatorLabel key →
    live.metadata.labelMap.get? key = old.bind fun object => object.metadata.labelMap.get? key

theorem get?_of_not_drifted {live desired : Managed kind} {key value : String}
    (same : live.drifted desired = false)
    (wanted : desired.metadata.labelMap.get? key = some value) :
    live.metadata.labelMap.get? key = some value := by
  simp only [drifted, identityDrifted, Bool.or_eq_false_iff] at same
  exact get?_of_not_labelsDrifted same.1.2 wanted

variable {policy : Policy} {cluster : Cluster} {parent : ObjectKey}

theorem conforms_of_not_drifted {live desired : Managed kind} {old : Option (Managed kind)}
    (placed : cluster.IsAt parent)
    (built : kind.desired cluster policy.scheme policy.settings = .ok desired)
    (same : live.drifted desired = false)
    (others : ∀ key, ¬IsOperatorLabel key →
      live.metadata.labelMap.get? key = old.bind fun object => object.metadata.labelMap.get? key) :
    live.Conforms policy cluster old := by
  obtain ⟨owner, owned, metadata⟩ := Kind.metadata_of_desired placed built
  have controls := OwnerScheme.controllerRef_eq_ok_iff.1 owned
  have labels : desired.metadata.labelMap = managedLabels owner.name kind.tag := by
    rw [metadata]
    rfl
  have wanted : ∀ {key value : String}, (managedLabels owner.name kind.tag).get? key = some value →
      live.metadata.labelMap.get? key = some value :=
    fun set => get?_of_not_drifted same (labels ▸ set)
  exact {
    inSync := ⟨desired, built, same⟩
    owned := by
      refine ⟨owner, owned, controls, ?_⟩
      rw [owners_eq_of_not_drifted same, metadata]
      rfl
    managedBy := wanted (get?_managedBy _ _)
    partOf := by
      rw [wanted (get?_partOf _ _), controls.name]
    component := wanted (get?_component _ _)
    others }

theorem conforms_of_found {live desired : Managed kind} (placed : cluster.IsAt parent)
    (built : kind.desired cluster policy.scheme policy.settings = .ok desired)
    (same : live.drifted desired = false) : live.Conforms policy cluster (some live) :=
  conforms_of_not_drifted placed built same fun _ _ => rfl

end Managed

end CephExport
