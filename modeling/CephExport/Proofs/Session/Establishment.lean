import CephExport.Proofs.Fleet.Upkeep
import CephExport.Proofs.Pass.Course
import CephExport.Proofs.Resource.Conformity
import CephExport.Proofs.Store.Reliable

/-!
One pass by itself over a store that fails no call without need brings all resources of a cluster in
line, whatever they were like before, as long as none of them is marked for deletion.
-/

set_option autoImplicit false
set_option relaxedAutoImplicit false

namespace CephExport

namespace Managed

variable {kind : Kind} {policy : Policy} {cluster : Cluster} {parent : ObjectKey}
  {desired : Managed kind}

theorem conforms_of_created (placed : cluster.IsAt parent)
    (built : kind.desired cluster policy.scheme policy.settings = .ok desired)
    (identity : Identity) (version : String) :
    ((desired.identified identity).atVersion version).Conforms policy cluster none := by
  refine conforms_of_not_drifted placed built ?_ ?_
  · rw [drifted_atVersion, drifted_identified, not_drifted_self]
  · intro key foreign
    exact (Kind.get?_labelMap_of_desired foreign built : desired.metadata.labelMap.get? key = none)

theorem conforms_of_merged (placed : cluster.IsAt parent)
    (built : kind.desired cluster policy.scheme policy.settings = .ok desired)
    (live : Managed kind) (version : String) :
    ((live.merge desired).atVersion version).Conforms policy cluster (some live) := by
  refine conforms_of_not_drifted placed built ?_ ?_
  · rw [drifted_atVersion, not_drifted_merge]
  · have wanted : ∀ key, ¬IsOperatorLabel key → desired.metadata.labelMap.get? key = none :=
      fun _ foreign => Kind.get?_labelMap_of_desired foreign built
    exact (keepsForeign_merge live desired wanted).labels

end Managed

def Contents.Establishes (policy : Policy) (cluster : Cluster) (parent : ObjectKey)
    (before after : Contents) (kind : Kind) : Prop :=
  ∃ live, after.object (kind.place parent) = some live ∧
    live.Conforms policy cluster (before.object (kind.place parent))

variable {policy : Policy} {cluster : Cluster} {parent : ObjectKey} {owner : OwnerReference}
  {before after : Contents} {exchanges : List Exchange} {events : List Event}
  {result : Except OperatorError RequeueHint}

theorem Kind.Creation.establishes {kind : Kind} (placed : cluster.IsAt parent)
    (owned : policy.scheme.controllerRef cluster.metadata = .ok owner)
    (renewable : before.Renewable)
    (unmarked : ∀ live, before.object (kind.place parent) = some live →
      live.metadata.isDeleting = false)
    (creation : Creation kind policy cluster exchanges events result)
    (served : (Reliable Contents.Accepts).Serves before exchanges after) :
    result = .ok .done ∧ before.Establishes policy cluster parent after kind := by
  cases creation with
  | unbuilt unbuilt =>
    rw [desired_of_isAt placed owned] at unbuilt
    cases unbuilt
  | @built there desired _ _ _ placed' built provision =>
    obtain rfl := placed'.unique placed
    have named := Kind.displayName_of_desired placed built
    cases provision with
    | unread error =>
      obtain ⟨⟨⟩, -⟩ := Reliable.reading_first (fun _ _ => Contents.accepts_get) served
    | @pending live marked =>
      obtain ⟨kept, -⟩ := Reliable.found_first (fun _ _ => Contents.accepts_get) served
      rw [unmarked live kept] at marked
      cases marked
    | @inSync live _ same =>
      obtain ⟨kept, last⟩ := Reliable.found_first (fun _ _ => Contents.accepts_get) served
      obtain rfl := Backend.serves_nil_iff.1 last
      refine ⟨rfl, live, kept, ?_⟩
      rw [kept]
      exact Managed.conforms_of_found placed built same
    | notCreated error =>
      obtain ⟨free, wrote⟩ := Reliable.found_first (fun _ _ => Contents.accepts_get) served
      obtain ⟨_, _, ⟨⟩, -⟩ :=
        (Backend.serves_singleton_iff.1 wrote).creation named renewable free
    | created reply =>
      obtain ⟨free, wrote⟩ := Reliable.found_first (fun _ _ => Contents.accepts_get) served
      obtain ⟨identity, version, -, rfl⟩ :=
        (Backend.serves_singleton_iff.1 wrote).creation named renewable free
      refine ⟨rfl, _, Contents.store_object_self _ _ _, ?_⟩
      rw [free]
      exact Managed.conforms_of_created placed built identity version
    | @notReplaced live error _ drifted =>
      obtain ⟨kept, wrote⟩ := Reliable.found_first (fun _ _ => Contents.accepts_get) served
      have same : live.metadata.resourceVersion =
          (live.merge desired).metadata.resourceVersion := by
        rw [Managed.metadata_merge]
      obtain ⟨_, ⟨⟩, -⟩ := (Backend.serves_singleton_iff.1 wrote).replacement renewable kept same
    | @replaced live reply _ drifted =>
      obtain ⟨kept, wrote⟩ := Reliable.found_first (fun _ _ => Contents.accepts_get) served
      have same : live.metadata.resourceVersion =
          (live.merge desired).metadata.resourceVersion := by
        rw [Managed.metadata_merge]
      obtain ⟨version, -, rfl⟩ :=
        (Backend.serves_singleton_iff.1 wrote).replacement renewable kept same
      refine ⟨rfl, _, Contents.store_object_self _ _ _, ?_⟩
      rw [kept]
      exact Managed.conforms_of_merged placed built live version

namespace Orchestrator

private theorem InTurn.establishes {kinds : List Kind} (placed : cluster.IsAt parent)
    (owned : policy.scheme.controllerRef cluster.metadata = .ok owner)
    (distinct : kinds.Nodup) (renewable : before.Renewable)
    (unmarked : ∀ kind ∈ kinds, ∀ live, before.object (kind.place parent) = some live →
      live.metadata.isDeleting = false)
    (turns : InTurn (Kind.Creation · policy cluster) kinds exchanges events result)
    (served : (Reliable Contents.Accepts).Serves before exchanges after) :
    result = .ok .done ∧ ∀ kind ∈ kinds, before.Establishes policy cluster parent after kind := by
  induction turns generalizing before with
  | finished => exact ⟨rfl, fun _ member => absurd member List.not_mem_nil⟩
  | failed here =>
    obtain ⟨⟨⟩, -⟩ := here.establishes placed owned renewable (unmarked _ List.mem_cons_self) served
  | @passed head rest _ _ _ _ _ here next ih =>
    obtain ⟨between, early, late⟩ := Backend.serves_append_iff.1 served
    obtain ⟨notLater, distinct⟩ := List.nodup_cons.1 distinct
    have unreliable := early.mono fun _ _ _ _ => Reliable.unreliable
    have frame : ∀ kind ∈ rest,
        between.object (kind.place parent) = before.object (kind.place parent) := by
      intro kind later
      refine unreliable.object_eq_of_about ?_ here.about
      rintro rfl
      exact notLater later
    obtain ⟨-, live, kept, conforms⟩ :=
      here.establishes placed owned renewable (unmarked _ List.mem_cons_self) early
    obtain ⟨ended, others⟩ := ih distinct (unreliable.renewable renewable) (by
      intro kind later live there
      rw [frame kind later] at there
      exact unmarked kind (List.mem_cons_of_mem _ later) live there) late
    refine ⟨ended, fun kind among => ?_⟩
    rcases List.mem_cons.1 among with rfl | later
    · refine ⟨live, ?_, conforms⟩
      -- The turns that follow are about other kinds.
      rw [← kept]
      refine (late.mono fun _ _ _ _ => Reliable.unreliable).object_eq ?_
      intro exchange member concerns
      obtain ⟨other, amongst, isAbout⟩ :=
        next.about (fun _ _ _ _ => Kind.Creation.about) exchange member
      exact notLater (concerns.about.unique isAbout ▸ amongst)
    · obtain ⟨live, kept, conforms⟩ := others kind later
      rw [frame kind later] at conforms
      exact ⟨live, kept, conforms⟩

/-- By one pass that nothing disturbs all resources come to be as the cluster wants them. -/
theorem establishes_of_ends (placed : cluster.IsAt parent)
    (owned : policy.scheme.controllerRef cluster.metadata = .ok owner)
    (enabled : cluster.nfsEnabled = true) (renewable : before.Renewable)
    (unmarked : ∀ (kind : Kind) live, before.object (kind.place parent) = some live →
      live.metadata.isDeleting = false)
    (ended : (ensureCreated (nfs policy) cluster).Ends exchanges events result)
    (served : (Reliable Contents.Accepts).Serves before exchanges after) :
    result = .ok .done ∧ (∀ kind, exchanges.countP (·.writes kind) ≤ 1) ∧
      ∀ kind, before.Establishes policy cluster parent after kind := by
  have course := course_of_ensureCreated ended
  have once := course.countP_writes_le
  rw [enabled] at course
  cases course with
  | creations turns =>
    obtain ⟨ok, established⟩ := turns.establishes placed owned (by decide) renewable
      (fun kind _ => unmarked kind) served
    exact ⟨ok, once, fun kind => established kind (mem_creationOrder kind)⟩

end Orchestrator

end CephExport
