import CephExport.Proofs.Pass.Orchestrator
import CephExport.Proofs.Session.Basic
import CephExport.Proofs.Store.Knowledge

/-!
The resources of a parent depend on each other: the Service needs the servers, and these the pool.
All runs of passes keep to that order, however the export is switched on and off, wherever passes
are cut off and whichever calls fail.
-/

set_option autoImplicit false
set_option relaxedAutoImplicit false

namespace CephExport

namespace Contents

/-- Whatever is there of a parent's resources has what it depends on, unmarked. -/
structure Closed (contents : Contents) (parent : ObjectKey) : Prop where
  service : contents.Holds (Kind.service.place parent) →
    contents.HoldsUnmarked (Kind.exporter.place parent)
  exporter : contents.Holds (Kind.exporter.place parent) →
    contents.HoldsUnmarked (Kind.blockPool.place parent)

variable {before after contents : Contents} {parent : ObjectKey}

theorem closed_iff : contents.Closed parent ↔ ∀ kind earlier : Kind, earlier.rank < kind.rank →
    contents.Holds (kind.place parent) → contents.HoldsUnmarked (earlier.place parent) := by
  constructor
  · intro closed kind earlier below present
    cases kind with
    | blockPool => exact absurd below (Nat.not_lt_zero _)
    | exporter =>
      cases earlier with
      | blockPool => exact closed.exporter present
      | exporter | service => exact absurd below (by decide)
    | service =>
      have exporter := closed.service present
      cases earlier with
      | blockPool => exact closed.exporter exporter.holds
      | exporter => exact exporter
      | service => exact absurd below (by decide)
  · intro h
    exact ⟨h .service .exporter (by decide), h .exporter .blockPool (by decide)⟩

/-- A change of the resources of a parent that keeps to their order: none at all, an unmarked object
put where all earlier resources are unmarked, or one that is marked or removed where no later one is
there. -/
inductive Orderly (parent : ObjectKey) (before after : Contents) : Prop
  | aside (same : ∀ kind : Kind,
      after.object (kind.place parent) = before.object (kind.place parent))
  | put (kind : Kind)
      (elsewhere : ∀ other : Kind, other ≠ kind →
        after.object (other.place parent) = before.object (other.place parent))
      (placed : after.HoldsUnmarked (kind.place parent))
      (earlier : ∀ earlier : Kind, earlier.rank < kind.rank →
        before.HoldsUnmarked (earlier.place parent))
  | drop (kind : Kind)
      (elsewhere : ∀ other : Kind, other ≠ kind →
        after.object (other.place parent) = before.object (other.place parent))
      (remains : after.Holds (kind.place parent) → before.Holds (kind.place parent))
      (later : ∀ later : Kind, kind.rank < later.rank → ¬before.Holds (later.place parent))

namespace Orderly

theorem unmarked_after (orderly : Orderly parent before after) (closed : before.Closed parent)
    {kind earlier : Kind} (below : earlier.rank < kind.rank)
    (present : before.Holds (kind.place parent)) :
    after.HoldsUnmarked (earlier.place parent) := by
  have live : before.HoldsUnmarked (earlier.place parent) :=
    closed_iff.1 closed kind earlier below present
  cases orderly with
  | aside same => exact (holdsUnmarked_congr (same earlier)).2 live
  | put changed elsewhere placed _ =>
    by_cases same : earlier = changed
    · rwa [same]
    · exact (holdsUnmarked_congr (elsewhere earlier same)).2 live
  | drop changed elsewhere _ later =>
    by_cases same : earlier = changed
    · subst same
      exact absurd present (later kind below)
    · exact (holdsUnmarked_congr (elsewhere earlier same)).2 live

theorem unmarked_before (orderly : Orderly parent before after) (closed : before.Closed parent)
    {kind earlier : Kind} (below : earlier.rank < kind.rank)
    (present : after.Holds (kind.place parent)) :
    before.HoldsUnmarked (earlier.place parent) := by
  have kept : before.Holds (kind.place parent) → before.HoldsUnmarked (earlier.place parent) :=
    closed_iff.1 closed kind earlier below
  cases orderly with
  | aside same => exact kept ((holds_congr (same kind)).1 present)
  | put changed elsewhere _ live =>
    by_cases same : kind = changed
    · subst same
      exact live earlier below
    · exact kept ((holds_congr (elsewhere kind same)).1 present)
  | drop changed elsewhere remains _ =>
    by_cases same : kind = changed
    · subst same
      exact kept (remains present)
    · exact kept ((holds_congr (elsewhere kind same)).1 present)

theorem closed (orderly : Orderly parent before after) (closed : before.Closed parent) :
    after.Closed parent := by
  refine closed_iff.2 fun kind earlier below present => ?_
  by_cases old : before.Holds (kind.place parent)
  · exact orderly.unmarked_after closed below old
  · -- The resource was put by this very change, which leaves what it depends on alone.
    cases orderly with
    | aside same => exact absurd ((holds_congr (same kind)).1 present) old
    | put changed elsewhere _ live =>
      have put : kind = changed := by
        by_contra different
        exact old ((holds_congr (elsewhere kind different)).1 present)
      subst put
      have different : earlier ≠ kind := by
        rintro rfl
        exact Nat.lt_irrefl _ below
      exact (holdsUnmarked_congr (elsewhere earlier different)).2 (live earlier below)
    | drop changed elsewhere remains _ =>
      by_cases same : kind = changed
      · subst same
        exact absurd (remains present) old
      · exact absurd ((holds_congr (elsewhere kind same)).1 present) old

end Orderly

theorem Release.orderly (release : before.Release after) (closed : before.Closed parent) :
    Orderly parent before after := by
  obtain ⟨kept, marked⟩ := release
  rename_i place live
  -- What belongs to other parents may be released at any time, too.
  by_cases own : ∃ kind : Kind, place = kind.place parent
  · obtain ⟨kind, rfl⟩ := own
    refine .drop kind ?_ ?_ ?_
    · exact fun other different => remove_object_of_ne before (Kind.place_ne different parent)
    · intro present
      exact absurd (remove_object_self before) present
    · intro later above present
      obtain ⟨unmarked, found, live'⟩ := closed_iff.1 closed later kind above present
      obtain rfl : live = unmarked := Option.some.inj (kept.symm.trans found)
      rw [marked] at live'
      cases live'
  · refine .aside fun kind => remove_object_of_ne before ?_
    exact fun same => own ⟨kind, same.symm⟩

end Contents

def InDependencyOrder (parent : ObjectKey) (memory : Memory) (call : Call) : Prop :=
  call.SubmitsUnmarked ∧
    match call with
    | .create kind _ _ | .replace kind _ _ => call.place? = some (kind.place parent) ∧
        ∀ earlier : Kind, earlier.rank < kind.rank → (memory (earlier.place parent)).IsLive
    | .delete kind _ => call.place? = some (kind.place parent) ∧
        ∀ later : Kind, kind.rank < later.rank → memory (later.place parent) = .absent
    | _ => True

/-- Calls in order make orderly changes, since what the pass knows is so. -/
theorem Contents.Accepts.orderly {before after : Contents} {parent : ObjectKey} {memory : Memory}
    {call : Call} {reply : call.Reply} (taken : before.Accepts call reply after)
    (confirmed : before.Confirms memory)
    (ordered : InDependencyOrder parent memory call) : Orderly parent before after := by
  obtain ⟨submits, ordered⟩ := ordered
  have elsewhere : ∀ kind : Kind, call.place? = some (kind.place parent) →
      ∀ other : Kind, other ≠ kind →
      after.object (other.place parent) = before.object (other.place parent) := by
    intro kind here other different
    apply taken.object_of_ne
    rw [here]
    exact fun same => Kind.place_ne different parent (Option.some.inj same).symm
  cases taken with
  | get | alreadyMarked => exact .aside fun _ => rfl
  | @create kind «namespace» object version identity free fresh =>
    obtain ⟨here, earlier⟩ := ordered
    refine .put kind (elsewhere kind here) ?_ fun other below =>
      confirmed.live _ (earlier other below)
    rw [← Option.some.inj here]
    exact holdsUnmarked_store before version submits
  | @replace kind key object live version kept same fresh =>
    obtain ⟨here, earlier⟩ := ordered
    refine .put kind (elsewhere kind here) ?_ fun other below =>
      confirmed.live _ (earlier other below)
    rw [← Option.some.inj here]
    exact holdsUnmarked_store before version submits
  | @remove kind key live kept =>
    obtain ⟨here, later⟩ := ordered
    refine .drop kind (elsewhere kind here) ?_ fun other above => ?_
    · rw [← Option.some.inj here]
      exact fun present => absurd (remove_object_self before) present
    · exact not_not_intro (confirmed.absent _ (later other above))
  | @mark kind key live version time kept fresh =>
    obtain ⟨here, later⟩ := ordered
    refine .drop kind (elsewhere kind here) ?_ fun other above => ?_
    · rw [← Option.some.inj here]
      intro _ missing
      rw [kept] at missing
      cases missing
    · exact not_not_intro (confirmed.absent _ (later other above))

theorem Unreliable.orderly {before after : Contents} {parent : ObjectKey} {memory : Memory}
    {call : Call}
    {answer : call.Answer} (served : Unreliable Contents.Accepts before call answer after)
    (confirmed : before.Confirms memory) (ordered : InDependencyOrder parent memory call) :
    Contents.Orderly parent before after := by
  rcases served.effect with rfl | ⟨reply, taken⟩
  · exact .aside fun _ => rfl
  · exact taken.orderly confirmed ordered

namespace Orchestrator

inductive IsPass (parent : ObjectKey) : Pass RequeueHint → Prop
  | ensureCreated (policy : Policy) {cluster : Cluster} (placed : cluster.IsAt parent) :
      IsPass parent (ensureCreated (nfs policy) cluster)
  | ensureDeleted (policy : Policy) {cluster : Cluster} (placed : cluster.IsAt parent) :
      IsPass parent (ensureDeleted (nfs policy) cluster)

variable {parent : ObjectKey} {policy : Policy} {cluster : Cluster}

private theorem grantsDeletion_inDependencyOrder :
    GrantsDeletion parent (InDependencyOrder parent) fun _ _ => True where
  read _ _ := ⟨trivial, trivial⟩
  delete _ _ later := ⟨trivial, rfl, later⟩
  gone _ _ := trivial
  failed _ _ := trivial

private theorem grantsCreation_inDependencyOrder (placed : cluster.IsAt parent) :
    GrantsCreation policy cluster parent (InDependencyOrder parent) fun _ _ => True where
  read _ _ := ⟨trivial, trivial⟩
  create memory kind desired earlier _ built := by
    have here : (Call.create kind parent.namespace desired).place? = some (kind.place parent) := by
      rw [Call.place?, Kind.displayName_of_desired placed built]
      rfl
    refine ⟨Kind.isDeleting_of_desired built, here, fun other below => ?_⟩
    obtain ⟨_, _, inLine⟩ := earlier other below
    exact inLine.isLive
  replace memory kind live desired earlier _ unmarked _ _ := by
    have submits : (live.merge desired).metadata.isDeleting = false := by
      rw [Managed.isDeleting_merge, unmarked]
    refine ⟨submits, rfl, fun other below => ?_⟩
    obtain ⟨_, _, inLine⟩ := earlier other below
    exact inLine.isLive
  settled _ _ := trivial
  unbuilt _ _ _ _ := trivial
  failed _ _ _ _ := trivial
  pending _ _ _ _ _ _ := trivial

theorem IsPass.inDependencyOrder {pass : Pass RequeueHint} (h : IsPass parent pass)
    (memory : Memory) :
    pass.Obeys (InDependencyOrder parent) (fun _ _ => True) memory := by
  cases h with
  | ensureCreated policy placed =>
    exact obeys_ensureCreated placed (fun _ => grantsDeletion_inDependencyOrder)
      fun _ => grantsCreation_inDependencyOrder placed
  | ensureDeleted policy placed => exact obeys_ensureDeleted placed grantsDeletion_inDependencyOrder

end Orchestrator

namespace Session

/-- A step of a session in which passes run over all resources of a parent: any call may fail, with
or without effect, and marked objects go away at any time. -/
def Orchestrated (parent : ObjectKey) :
    Session Contents RequeueHint → Session Contents RequeueHint → Prop :=
  Step (Unreliable Contents.Accepts) Contents.Release fun _ pass => Orchestrator.IsPass parent pass

structure InOrder (parent : ObjectKey) (session : Session Contents RequeueHint) : Prop where
  closed : session.state.Closed parent
  obeys : ∀ worker ∈ session.running, worker.Obeys (InDependencyOrder parent) fun _ _ => True
  confirmed : ∀ worker ∈ session.running, session.state.Confirms worker.memory

variable {parent : ObjectKey} {before after : Session Contents RequeueHint}

theorem Orchestrated.orderly (step : Orchestrated parent before after)
    (inOrder : before.InOrder parent) :
    Contents.Orderly parent before.state after.state := by
  cases step with
  | start | leave => exact .aside fun _ => rfl
  | work step =>
    have obeys := inOrder.obeys _ rfl
    cases step with
    | report => exact .aside fun _ => rfl
    | call served => exact served.orderly (inOrder.confirmed _ rfl) obeys.1
  | drift released => exact released.orderly inOrder.closed

theorem InOrder.step (inOrder : before.InOrder parent) (step : Orchestrated parent before after) :
    after.InOrder parent := by
  refine ⟨(step.orderly inOrder).closed inOrder.closed, ?_, ?_⟩
  · rintro worker running
    cases step with
    | start begun =>
      obtain rfl := Option.some.inj running
      exact begun.inDependencyOrder _
    | work step =>
      obtain rfl := Option.some.inj running
      exact step.obeys (inOrder.obeys _ rfl)
    | leave => cases running
    | drift _ => exact inOrder.obeys worker running
  · rintro worker running
    cases step with
    | @start state _ _ =>
      obtain rfl := Option.some.inj running
      exact state.confirms_blank
    | work step =>
      obtain rfl := Option.some.inj running
      have obeys := inOrder.obeys _ rfl
      have confirmed := inOrder.confirmed _ rfl
      cases step with
      | report => exact confirmed
      | call served => exact confirmed.of_call obeys.1.1 served
    | leave => cases running
    | drift released => exact (inOrder.confirmed worker running).of_release released

/-- In every run of passes over the resources of a parent, whatever is there has what it depends on,
unmarked; no step marks or removes what something there depends on, and none creates anything whose
dependencies are missing or marked. -/
theorem closed_of_orchestrated {start session : Session Contents RequeueHint}
    (closed : start.state.Closed parent) (idle : start.running = none)
    (run : Relation.ReflTransGen (Orchestrated parent) start session) :
    session.state.Closed parent ∧ ∀ next, Orchestrated parent session next → ∀ kind earlier : Kind,
      earlier.rank < kind.rank →
        (session.state.Holds (kind.place parent) →
          next.state.HoldsUnmarked (earlier.place parent)) ∧
        (next.state.Holds (kind.place parent) →
          session.state.HoldsUnmarked (earlier.place parent)) := by
  have begins : start.InOrder parent := by
    refine ⟨closed, ?_, ?_⟩ <;> simp [idle]
  have inOrder : session.InOrder parent :=
    invariant_of_run (fun _ _ holds step => holds.step step) run begins
  refine ⟨inOrder.closed, fun next step kind earlier below => ?_⟩
  have orderly := step.orderly inOrder
  exact ⟨orderly.unmarked_after inOrder.closed below, orderly.unmarked_before inOrder.closed below⟩

theorem poolOfSample_closed : ∃ session,
    Relation.ReflTransGen (Orchestrated Cluster.sampleKey) ⟨Contents.empty, none⟩ session ∧
    session.state.Holds (Kind.blockPool.place Cluster.sampleKey) ∧
    session.state.Closed Cluster.sampleKey ∧
    ∀ next, Orchestrated Cluster.sampleKey session next →
      ∀ kind earlier : Kind, earlier.rank < kind.rank →
      (session.state.Holds (kind.place Cluster.sampleKey) →
        next.state.HoldsUnmarked (earlier.place Cluster.sampleKey)) ∧
      (next.state.Holds (kind.place Cluster.sampleKey) →
        session.state.HoldsUnmarked (earlier.place Cluster.sampleKey)) := by
  have closed : Contents.empty.Closed Cluster.sampleKey :=
    ⟨fun present => absurd rfl present, fun present => absurd rfl present⟩
  have begun : Orchestrated Cluster.sampleKey ⟨Contents.empty, none⟩ _ :=
    .start (.ensureCreated ⟨⟨"v1", "StorageCluster"⟩, {}⟩ Cluster.sample_isAt)
  have read :=
    (Relation.ReflTransGen.single begun).tail (.work (.call (.accepted (.get .blockPool _))))
  have reported := read.tail (.work .report)
  have created := reported.tail (.work (.call (.accepted (.create {} rfl (Set.notMem_empty "1")))))
  refine ⟨_, created, ?_, closed_of_orchestrated closed rfl created⟩
  apply Contents.HoldsUnmarked.holds
  exact Contents.holdsUnmarked_store Contents.empty "1" rfl

end Session

end CephExport
