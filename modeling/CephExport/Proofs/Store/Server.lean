import CephExport.Proofs.Resource.Parent
import CephExport.Proofs.Store.Knowledge

/-!
What a server keeps of one parent besides the managed objects: the cluster itself, whose finalizers
keep it from going away once it is marked for deletion.
-/

set_option autoImplicit false
set_option relaxedAutoImplicit false

namespace CephExport

namespace V1alpha1.Cluster

def finalizers (cluster : Cluster) : List String := cluster.metadata.finalizers.getD []

def withFinalizers (cluster : Cluster) (finalizers : List String) : Cluster :=
  { cluster with metadata := { cluster.metadata with finalizers := some finalizers } }

def marked (cluster : Cluster) (time : MetaTime) : Cluster :=
  { cluster with metadata := { cluster.metadata with deletionTimestamp := some time } }

/-- A cluster that is marked and has no finalizer left goes away. -/
def unlessReleased (cluster : Cluster) : Option Cluster :=
  if cluster.metadata.isDeleting = true ∧ cluster.finalizers = [] then none else some cluster

/-- A change of a cluster that leaves its name, its finalizers and its deletion mark as they are. -/
structure Edits (before after : Cluster) : Prop where
  name : after.metadata.name = before.metadata.name
  «namespace» : after.metadata.namespace = before.metadata.namespace
  finalizers : after.metadata.finalizers = before.metadata.finalizers
  deletion : after.metadata.deletionTimestamp = before.metadata.deletionTimestamp

end V1alpha1.Cluster

/-- The managed objects, and the cluster that they belong to, if it is there. -/
structure Server where
  contents : Contents
  parent : Option V1alpha1.Cluster

namespace Server

def HoldsFinalizer (server : Server) : Prop :=
  ∃ cluster, server.parent = some cluster ∧ clusterFinalizer ∈ cluster.finalizers

def ParentAt (server : Server) (home : ObjectKey) : Prop :=
  ∀ cluster, server.parent = some cluster → cluster.toCluster.IsAt home

/-- A call that is accepted for the managed objects or for the parent at a key. -/
inductive Accepts (home : ObjectKey) (before : Server) : (call : Call) → call.Reply → Server → Prop
  | managed {call : Call} {reply : call.Reply} {after : Contents}
      (taken : before.contents.Accepts call reply after) :
      Accepts home before call reply ⟨after, before.parent⟩
  | setPhase {cluster : V1alpha1.Cluster} {phase : Phase} (time : Option Timestamp)
      (kept : before.parent = some cluster) :
      Accepts home before (.setPhase home phase) ()
        ⟨before.contents, some { cluster with status := some ⟨phase.text, time⟩ }⟩
  | addFinalizer {cluster : V1alpha1.Cluster} {present : List String}
      (kept : before.parent = some cluster)
      (same : cluster.finalizers = present) :
      Accepts home before (.addFinalizer home present) ()
        ⟨before.contents, some (cluster.withFinalizers (present ++ [clusterFinalizer]))⟩
  | removeFinalizer {cluster : V1alpha1.Cluster} {position : Nat}
      (kept : before.parent = some cluster)
      (there : cluster.finalizers[position]? = some clusterFinalizer) :
      Accepts home before (.removeFinalizer home position) ()
        ⟨before.contents,
          (cluster.withFinalizers (cluster.finalizers.eraseIdx position)).unlessReleased⟩

/-- What users do to the parent at a key: they create it, change it, and delete it, which only marks
it while it has finalizers. -/
inductive UserStep (home : ObjectKey) (before : Server) : Server → Prop
  | create {cluster : V1alpha1.Cluster} (missing : before.parent = none)
      (placed : cluster.toCluster.IsAt home) : UserStep home before ⟨before.contents, some cluster⟩
  | edit {old new : V1alpha1.Cluster} (kept : before.parent = some old) (edits : old.Edits new) :
      UserStep home before ⟨before.contents, some new⟩
  | mark {cluster : V1alpha1.Cluster} (time : MetaTime) (kept : before.parent = some cluster)
      (guarded : cluster.finalizers ≠ []) :
      UserStep home before ⟨before.contents, some (cluster.marked time)⟩
  | remove {cluster : V1alpha1.Cluster} (kept : before.parent = some cluster)
      (free : cluster.finalizers = []) : UserStep home before ⟨before.contents, none⟩

/-- What happens to a server besides the calls of a pass: users change the parent, and managed
objects that are marked for deletion go away. -/
inductive Drift (home : ObjectKey) (before : Server) : Server → Prop
  | user {after : Server} (step : UserStep home before after) : Drift home before after
  | release {after : Contents} (released : before.contents.Release after) :
      Drift home before ⟨after, before.parent⟩

variable {home : ObjectKey} {before after : Server}

theorem UserStep.contents (step : UserStep home before after) :
    after.contents = before.contents := by
  cases step <;> rfl

theorem UserStep.parentAt (step : UserStep home before after) (placed : before.ParentAt home) :
    after.ParentAt home := by
  intro cluster kept
  cases step with
  | create _ placed =>
    obtain rfl := Option.some.inj kept
    exact placed
  | edit old edits =>
    obtain rfl := Option.some.inj kept
    have was := placed _ old
    exact ⟨edits.name.trans was.name, edits.namespace.trans was.namespace⟩
  | mark time old _ =>
    obtain rfl := Option.some.inj kept
    have was := placed _ old
    exact ⟨was.name, was.namespace⟩
  | remove => cases kept

theorem UserStep.holdsFinalizer (step : UserStep home before after)
    (holds : before.HoldsFinalizer) :
    after.HoldsFinalizer := by
  obtain ⟨cluster, kept, carried⟩ := holds
  cases step with
  | create missing _ =>
    rw [missing] at kept
    cases kept
  | edit old edits =>
    obtain rfl := Option.some.inj (old.symm.trans kept)
    refine ⟨_, rfl, ?_⟩
    rw [V1alpha1.Cluster.finalizers, edits.finalizers]
    exact carried
  | mark time old _ =>
    obtain rfl := Option.some.inj (old.symm.trans kept)
    exact ⟨_, rfl, carried⟩
  | remove old free =>
    obtain rfl := Option.some.inj (old.symm.trans kept)
    rw [free] at carried
    cases carried

theorem Accepts.parentAt {call : Call} {reply : call.Reply}
    (taken : Accepts home before call reply after)
    (placed : before.ParentAt home) : after.ParentAt home := by
  intro cluster kept
  cases taken with
  | managed _ => exact placed cluster kept
  | setPhase time old | addFinalizer old _ =>
    obtain rfl := Option.some.inj kept
    have was := placed _ old
    exact ⟨was.name, was.namespace⟩
  | removeFinalizer old _ =>
    simp only [V1alpha1.Cluster.unlessReleased] at kept
    split at kept
    · cases kept
    · obtain rfl := Option.some.inj kept
      have was := placed _ old
      exact ⟨was.name, was.namespace⟩

theorem Accepts.holdsFinalizer {call : Call} {reply : call.Reply}
    (taken : Accepts home before call reply after)
    (other : ∀ position, call ≠ .removeFinalizer home position) (holds : before.HoldsFinalizer) :
    after.HoldsFinalizer := by
  obtain ⟨cluster, kept, carried⟩ := holds
  cases taken with
  | managed _ => exact ⟨cluster, kept, carried⟩
  | setPhase time old =>
    obtain rfl := Option.some.inj (old.symm.trans kept)
    exact ⟨_, rfl, carried⟩
  | addFinalizer old same => exact ⟨_, rfl, List.mem_append_right _ (List.mem_singleton_self _)⟩
  | removeFinalizer => exact absurd rfl (other _)

theorem Accepts.contents {call : Call} {reply : call.Reply}
    (taken : Accepts home before call reply after) :
    before.contents.Accepts call reply after.contents ∨
      (call.place? = none ∧ after.contents = before.contents) := by
  cases taken with
  | managed taken => exact .inl taken
  | setPhase | addFinalizer | removeFinalizer => exact .inr ⟨rfl, rfl⟩

theorem contents_of_unreliable {call : Call} {answer : call.Answer}
    (served : Unreliable (Accepts home) before call answer after) :
    Unreliable Contents.Accepts before.contents call answer after.contents ∨
      (call.place? = none ∧ after.contents = before.contents) := by
  cases served with
  | accepted taken => exact taken.contents.imp_left .accepted
  | failed error => exact .inl (.failed error)
  | lost error taken => exact taken.contents.imp_left (.lost error)

end Server

end CephExport
