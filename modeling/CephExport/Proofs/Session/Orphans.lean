import CephExport.Proofs.Pass.Cluster
import CephExport.Proofs.Session.Basic
import CephExport.Proofs.Store.Server

/-!
No resource outlives its parent: while one is there, so is the cluster that it belongs to, under the
operator's finalizer. Users may create, change and delete the cluster at any time, and passes over
it may fail or be cut off anywhere.
-/

set_option autoImplicit false
set_option relaxedAutoImplicit false

namespace CephExport

/-- What a pass may call for: it creates only while it applies a cluster, and removes the finalizer
only while it does not, once all resources of the parent were read absent. -/
def UnderFinalizer (home : ObjectKey) (applying : Prop) (memory : Memory) (call : Call) : Prop :=
  call.SubmitsUnmarked ∧
    match call with
    | .create _ _ _ => applying
    | .removeFinalizer _ _ => ¬applying ∧ ∀ kind : Kind, memory (kind.place home) = .absent
    | _ => True

namespace Reconcile

variable {home : ObjectKey} {applying : Prop}

private theorem grantsDeletion_underFinalizer {goal : Memory → Except OperatorError RequeueHint →
      Prop}
    (gone : ∀ memory : Memory, (∀ kind : Kind, memory (kind.place home) = .absent) →
      goal memory (.ok .done))
    (failed : ∀ memory error, goal memory (.error error)) :
    Orchestrator.GrantsDeletion home (UnderFinalizer home applying) goal where
  read _ _ := ⟨trivial, trivial⟩
  delete _ _ _ := ⟨trivial, trivial⟩
  gone := gone
  failed := failed

private theorem grantsCreation_underFinalizer {policy : Policy} {cluster : Cluster}
    (applied : applying) :
    Orchestrator.GrantsCreation policy cluster home (UnderFinalizer home applying)
      fun _ _ => True where
  read _ _ := ⟨trivial, trivial⟩
  create memory kind desired _ _ built := ⟨Kind.isDeleting_of_desired built, applied⟩
  replace memory kind live desired _ _ unmarked _ _ := by
    have submits : (live.merge desired).metadata.isDeleting = false := by
      rw [Managed.isDeleting_merge, unmarked]
    exact ⟨submits, trivial⟩
  settled _ _ := trivial
  unbuilt _ _ _ _ := trivial
  failed _ _ _ _ := trivial
  pending _ _ _ _ _ _ := trivial

theorem obeys_cluster {served : V1alpha1.Cluster} (placed : served.toCluster.IsAt home)
    (settings : Option Settings) (memory : Memory) : (cluster served settings).Obeys
      (UnderFinalizer home
        (clusterFinalizer ∈ served.finalizers ∧ served.metadata.isDeleting = false))
      (fun _ _ => True) memory := by
  have space : served.metadata.namespace = some home.namespace := placed.namespace
  unfold Reconcile.cluster
  rw [space]
  cases settings with
  | none => trivial
  | some settings =>
    apply obeys_underFinalizer fun memory => ∀ kind : Kind, memory (kind.place home) = .absent
    · intro carried unmarked
      apply obeys_apply fun _ _ => ⟨trivial, trivial⟩
      intro memory
      exact Orchestrator.obeys_ensureCreated placed
        (fun _ => grantsDeletion_underFinalizer (fun _ _ => trivial) fun _ _ => trivial)
        fun _ => grantsCreation_underFinalizer ⟨carried, unmarked⟩
    · intro _
      apply obeys_cleanUp ⟨trivial, trivial⟩
      exact Orchestrator.obeys_ensureDeleted placed
        (grantsDeletion_underFinalizer (fun _ absent => absent) fun _ _ => trivial)
    · exact fun _ _ => ⟨trivial, trivial⟩
    · intro marked memory key position absent
      refine ⟨trivial, ?_, absent⟩
      rintro ⟨-, unmarked⟩
      rw [marked] at unmarked
      cases unmarked

end Reconcile

namespace Server

/-- The resources of the parent at a key are only there under its finalizer. -/
def Guards (server : Server) (home : ObjectKey) : Prop :=
  ∀ kind : Kind, server.contents.Holds (kind.place home) → server.HoldsFinalizer

variable {home : ObjectKey} {applying : Prop} {before after : Server} {memory : Memory}
  {call : Call}

theorem Accepts.guards {reply : call.Reply} (taken : Accepts home before call reply after)
    (permitted : UnderFinalizer home applying memory call)
    (confirmed : before.contents.Confirms memory)
    (applied : applying → before.HoldsFinalizer) (guards : before.Guards home) :
    after.Guards home ∧ (applying → after.HoldsFinalizer) := by
  by_cases removes : ∃ position, call = .removeFinalizer home position
  · obtain ⟨position, rfl⟩ := removes
    obtain ⟨-, notApplying, absent⟩ := permitted
    refine ⟨fun kind present => ?_, fun creating => absurd creating notApplying⟩
    rcases taken.contents with impossible | ⟨-, same⟩
    · cases impossible
    · rw [same] at present
      exact absurd (confirmed.absent _ (absent kind)) present
  · have kept : before.HoldsFinalizer → after.HoldsFinalizer :=
      taken.holdsFinalizer fun position same => removes ⟨position, same⟩
    refine ⟨fun kind present => kept ?_, fun creating => kept (applied creating)⟩
    rcases taken.contents with managed | ⟨-, same⟩
    · -- Only a creation puts a resource where none was, and the pass creates under the finalizer.
      rcases managed.holds present with old | ⟨_, _, _, rfl⟩
      · exact guards kind old
      · exact applied permitted.2
    · rw [same] at present
      exact guards kind present

theorem confirms_of_call {answer : call.Answer}
    (served : Unreliable (Accepts home) before call answer after)
    (submits : call.SubmitsUnmarked) (confirmed : before.contents.Confirms memory) :
    after.contents.Confirms (memory.learn call answer) := by
  rcases contents_of_unreliable served with managed | ⟨unplaced, same⟩
  · exact confirmed.of_call submits managed
  · rw [Memory.learn_of_unplaced memory unplaced, same]
    exact confirmed

theorem Drift.guards (drift : Drift home before after) (guards : before.Guards home) :
    after.Guards home := by
  intro kind present
  cases drift with
  | user step =>
    rw [step.contents] at present
    exact step.holdsFinalizer (guards kind present)
  | release released =>
    apply guards kind
    exact fun missing => present (released.absent missing)

theorem Drift.holdsFinalizer (drift : Drift home before after) (holds : before.HoldsFinalizer) :
    after.HoldsFinalizer := by
  cases drift with
  | user step => exact step.holdsFinalizer holds
  | release => exact holds

theorem Drift.parentAt (drift : Drift home before after) (placed : before.ParentAt home) :
    after.ParentAt home := by
  cases drift with
  | user step => exact step.parentAt placed
  | release => exact placed

theorem Drift.confirms (drift : Drift home before after)
    (confirmed : before.contents.Confirms memory) :
    after.contents.Confirms memory := by
  cases drift with
  | user step =>
    rw [step.contents]
    exact confirmed
  | release released => exact confirmed.of_release released

end Server

namespace Session

/-- A step of a session in which passes run over the parent at a key, each on the parent as it is
when the pass begins. -/
def Governed (home : ObjectKey) : Session Server Action → Session Server Action → Prop :=
  Step (Unreliable (Server.Accepts home)) (Server.Drift home) fun server pass =>
    ∃ served settings, server.parent = some served ∧ pass = Reconcile.cluster served settings

end Session

/-- A running pass keeps the finalizer as long as there is something under it: while it may create
resources the finalizer is there, and what it knows is so. -/
def Worker.Minds (home : ObjectKey) (server : Server) (worker : Worker Action) : Prop :=
  ∃ applying : Prop, worker.Obeys (UnderFinalizer home applying) (fun _ _ => True) ∧
    (applying → server.HoldsFinalizer) ∧ server.contents.Confirms worker.memory

namespace Worker

variable {home : ObjectKey} {before after server : Server} {worker next : Worker Action}

theorem minds_of_begun {served : V1alpha1.Cluster} (placed : server.ParentAt home)
    (kept : server.parent = some served) (settings : Option Settings) :
    Minds home server ⟨Reconcile.cluster served settings, .blank⟩ := by
  have obeys := Reconcile.obeys_cluster (placed served kept) settings .blank
  refine ⟨_, obeys, ?_, server.contents.confirms_blank⟩
  rintro ⟨carried, -⟩
  exact ⟨served, kept, carried⟩

theorem Minds.of_step {exchange : Option Exchange} (minds : worker.Minds home before)
    (placed : before.ParentAt home) (guards : before.Guards home)
    (step : worker.Step (Unreliable (Server.Accepts home)) before exchange next after) :
    after.ParentAt home ∧ after.Guards home ∧ next.Minds home after := by
  obtain ⟨applying, obeys, applied, confirmed⟩ := minds
  have later := step.obeys obeys
  cases step with
  | report => exact ⟨placed, guards, applying, later, applied, confirmed⟩
  | call served =>
    have known := Server.confirms_of_call served obeys.1.1 confirmed
    -- A call that failed may have taken effect all the same, so the answer does not matter here.
    rcases served.effect with rfl | ⟨reply, taken⟩
    · exact ⟨placed, guards, applying, later, applied, known⟩
    · obtain ⟨guardsAfter, appliedAfter⟩ := taken.guards obeys.1 confirmed applied guards
      exact ⟨taken.parentAt placed, guardsAfter, applying, later, appliedAfter, known⟩

theorem Minds.of_drift (minds : worker.Minds home before) (drift : Server.Drift home before after) :
    worker.Minds home after := by
  obtain ⟨applying, obeys, applied, confirmed⟩ := minds
  refine ⟨applying, obeys, fun creating => ?_, drift.confirms confirmed⟩
  exact drift.holdsFinalizer (applied creating)

end Worker

namespace Session

structure Guarded (home : ObjectKey) (session : Session Server Action) : Prop where
  placed : session.state.ParentAt home
  guards : session.state.Guards home
  minds : ∀ worker ∈ session.running, worker.Minds home session.state

variable {home : ObjectKey} {before after : Session Server Action}

theorem Guarded.step (guarded : before.Guarded home) (step : Governed home before after) :
    after.Guarded home := by
  cases step with
  | start begun =>
    obtain ⟨served, settings, kept, rfl⟩ := begun
    refine ⟨guarded.placed, guarded.guards, ?_⟩
    rintro worker ⟨⟩
    exact Worker.minds_of_begun guarded.placed kept settings
  | work step =>
    obtain ⟨placed, guards, minds⟩ :=
      (guarded.minds _ rfl).of_step guarded.placed guarded.guards step
    refine ⟨placed, guards, ?_⟩
    rintro worker ⟨⟩
    exact minds
  | leave =>
    refine ⟨guarded.placed, guarded.guards, ?_⟩
    rintro worker ⟨⟩
  | drift changed =>
    refine ⟨changed.parentAt guarded.placed, changed.guards guarded.guards, ?_⟩
    intro worker running
    exact (guarded.minds worker running).of_drift changed

/-- Whatever users and passes do, resources of the parent are only there while the parent is there
and carries the finalizer; when a pass calls for the removal of the finalizer, none of them is
there. -/
theorem guards_of_governed {start session : Session Server Action}
    (placed : start.state.ParentAt home)
    (empty : ∀ kind : Kind, start.state.contents.object (kind.place home) = none)
    (idle : start.running = none) (run : Relation.ReflTransGen (Governed home) start session) :
    (∀ kind : Kind, session.state.contents.Holds (kind.place home) → session.state.HoldsFinalizer) ∧
    ∀ worker ∈ session.running, ∀ key position rest,
      worker.pass = .ask (.removeFinalizer key position) rest →
      ∀ kind : Kind, session.state.contents.object (kind.place home) = none := by
  have begins : start.Guarded home := by
    refine ⟨placed, fun kind present => absurd (empty kind) present, ?_⟩
    simp [idle]
  have guarded : session.Guarded home :=
    invariant_of_run (fun _ _ holds step => holds.step step) run begins
  refine ⟨guarded.guards, ?_⟩
  intro worker running key position rest asks kind
  obtain ⟨applying, obeys, -, confirmed⟩ := guarded.minds worker running
  rw [Worker.Obeys, asks] at obeys
  obtain ⟨⟨-, -, absent⟩, -⟩ := obeys
  exact confirmed.absent _ (absent kind)

def servedSample : V1alpha1.Cluster where
  metadata := { Cluster.sample.metadata with finalizers := some [clusterFinalizer] }
  spec := { nfs := some { enable := true } }
  status := some ⟨"progressing", none⟩

theorem poolOfSample_guarded : ∃ session,
    Relation.ReflTransGen (Governed Cluster.sampleKey) ⟨⟨Contents.empty, none⟩, none⟩ session ∧
    session.state.contents.Holds (Kind.blockPool.place Cluster.sampleKey) ∧
    (∀ kind : Kind, session.state.contents.Holds (kind.place Cluster.sampleKey) →
      session.state.HoldsFinalizer) ∧
    ∀ worker ∈ session.running, ∀ key position rest,
      worker.pass = .ask (.removeFinalizer key position) rest →
      ∀ kind : Kind, session.state.contents.object (kind.place Cluster.sampleKey) = none := by
  have created := Relation.ReflTransGen.single
    (Step.drift (.user (.create rfl ⟨rfl, rfl⟩)) : Governed Cluster.sampleKey
      ⟨⟨Contents.empty, none⟩, none⟩
      ⟨⟨Contents.empty, some servedSample⟩, none⟩)
  have begun := created.tail (.start ⟨servedSample, some {}, rfl, rfl⟩)
  have read := begun.tail (.work (.call (.accepted (.managed (.get .blockPool _)))))
  have reported := read.tail (.work .report)
  have made :=
    reported.tail (.work (.call (.accepted (.managed (.create {} rfl (Set.notMem_empty "1"))))))
  refine ⟨_, made, ?_, guards_of_governed ?_ ?_ rfl made⟩
  · apply Contents.HoldsUnmarked.holds
    exact Contents.holdsUnmarked_store Contents.empty "1" rfl
  · rintro cluster ⟨⟩
  · exact fun kind => rfl

end Session

end CephExport
