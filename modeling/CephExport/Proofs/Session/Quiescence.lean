import CephExport.Proofs.Fleet.LostUpdate
import CephExport.Proofs.Pass.Phases
import CephExport.Proofs.Resource.Inputs
import CephExport.Proofs.Session.Establishment
import CephExport.Proofs.Session.Orphans

/-!
After a pass over a cluster that ended well, another one has nothing to do: it reads each resource
once and writes nothing, neither to the resources nor to the cluster, so the operator does not wake
itself.
-/

set_option autoImplicit false
set_option relaxedAutoImplicit false

namespace CephExport

/-- A cluster as it is read again, of which versions and the like may be others. -/
structure V1alpha1.Cluster.Rereads (left again : V1alpha1.Cluster) : Prop
    extends left.Edits again where
  uid : again.metadata.uid = left.metadata.uid
  spec : again.spec = left.spec
  status : again.status = left.status

/-- A resource needs no work: there is what the cluster wants, or nothing where it wants nothing. -/
inductive Contents.AtRest (policy : Policy) (cluster : Cluster) (parent : ObjectKey)
    (contents : Contents) (kind : Kind) : Prop
  | kept {live desired : Managed kind} (wanted : kind.shouldExist cluster = true)
      (there : contents.object (kind.place parent) = some live)
      (unmarked : live.metadata.isDeleting = false)
      (built : kind.desired cluster policy.scheme policy.settings = .ok desired)
      (same : live.drifted desired = false) : AtRest policy cluster parent contents kind
  | absent (unwanted : kind.shouldExist cluster = false)
      (gone : contents.object (kind.place parent) = none) :
      AtRest policy cluster parent contents kind

theorem Contents.AtRest.of_object_eq {policy : Policy} {cluster : Cluster} {parent : ObjectKey}
    {before after : Contents} {kind : Kind} (rests : before.AtRest policy cluster parent kind)
    (same : after.object (kind.place parent) = before.object (kind.place parent)) :
    after.AtRest policy cluster parent kind := by
  cases rests with
  | kept wanted there unmarked built agrees =>
    exact .kept wanted (same.trans there) unmarked built agrees
  | absent unwanted gone => exact .absent unwanted (same.trans gone)

namespace Server

variable {home : ObjectKey} {before after : Server} {exchanges : List Exchange}

theorem accepts_get {kind : Kind} {key : ObjectKey} {reply : (Call.get kind key).Reply} :
    Accepts home before (.get kind key) reply after ↔
      reply = before.contents.object ⟨kind, key⟩ ∧ after = before := by
  constructor
  · rintro ⟨⟨⟩⟩
    exact ⟨rfl, rfl⟩
  · rintro ⟨rfl, rfl⟩
    exact .managed (.get kind key)

theorem object_eq (served : (Unreliable (Accepts home)).Serves before exchanges after)
    {place : Place} (elsewhere : ∀ exchange ∈ exchanges, ¬exchange.Concerns place) :
    after.contents.object place = before.contents.object place := by
  induction served with
  | nil => rfl
  | cons served _ ih =>
    obtain ⟨here, later⟩ := List.forall_mem_cons.1 elsewhere
    rw [ih later]
    rcases contents_of_unreliable served with served | ⟨-, same⟩
    · exact served.object_of_ne here
    · rw [same]

theorem parent_eq {call : Call} {answer : call.Answer}
    (served : Unreliable (Accepts home) before call answer after)
    (managed : call.place? ≠ none) : after.parent = before.parent := by
  rcases served.effect with rfl | ⟨reply, taken⟩
  · rfl
  · cases taken with
    | managed => rfl
    | setPhase | addFinalizer | removeFinalizer => exact absurd rfl managed

end Server

variable {home : ObjectKey} {policy : Policy} {cluster : Cluster} {before after : Server}
  {exchanges : List Exchange} {events : List Event}

theorem Kind.Witnessed.atRest {kind : Kind} {call : Call} {answer : call.Answer}
    (placed : cluster.IsAt home) (witnessed : kind.Witnessed policy cluster ⟨call, answer⟩)
    (served : Unreliable (Server.Accepts home) before call answer after) :
    after.contents.AtRest policy cluster home kind := by
  generalize told : (⟨call, answer⟩ : Exchange) = exchange at witnessed
  cases witnessed with
  | absent unwanted placed' =>
    obtain rfl := placed'.unique placed
    cases told
    cases served with
    | accepted taken =>
      obtain ⟨gone, rfl⟩ := Server.accepts_get.1 taken
      exact .absent unwanted gone.symm
  | provided wanted placed' built provides =>
    obtain rfl := placed'.unique placed
    have named := displayName_of_desired placed built
    have unmarkedYet := isDeleting_of_desired built
    cases provides with
    | found unmarked same =>
      cases told
      cases served with
      | accepted taken =>
        obtain ⟨there, rfl⟩ := Server.accepts_get.1 taken
        exact .kept wanted there.symm unmarked built same
    | created reply =>
      cases told
      cases served with
      | accepted taken =>
        cases taken with
        | managed taken =>
          cases taken with
          | @create _ _ _ version identity free fresh =>
            rw [named]
            refine .kept wanted (Contents.store_object_self _ _ _) ?_ built ?_
            · exact unmarkedYet
            · rw [Managed.drifted_atVersion, Managed.drifted_identified, Managed.not_drifted_self]
    | replaced reply unmarked =>
      cases told
      cases served with
      | accepted taken =>
        cases taken with
        | managed taken =>
          cases taken with
          | replace there same fresh =>
            refine .kept wanted (Contents.store_object_self _ _ _) ?_ built ?_
            · exact (Managed.isDeleting_merge _ _).trans unmarked
            · rw [Managed.drifted_atVersion, Managed.not_drifted_merge]

theorem Orchestrator.Course.atRest {hint : RequeueHint} (placed : cluster.IsAt home)
    (course : Course policy cluster cluster.nfsEnabled exchanges events (.ok hint))
    (served : (Unreliable (Server.Accepts home)).Serves before exchanges after) (kind : Kind) :
    after.contents.AtRest policy cluster home kind := by
  obtain ⟨⟨call, answer⟩, ⟨-, earlier, later, rfl, others⟩, witnessed⟩ := course.witnessed kind
  obtain ⟨between, -, rest⟩ := Backend.serves_append_iff.1 served
  obtain ⟨next, here, last⟩ := Backend.serves_cons_iff.1 rest
  refine (witnessed.atRest placed here).of_object_eq (Server.object_eq last ?_)
  exact fun exchange member concerns => others exchange member concerns.about

theorem Kind.Creation.quiet {kind : Kind} {result : Except OperatorError RequeueHint}
    (placed : cluster.IsAt home) (wanted : kind.shouldExist cluster = true)
    (rests : before.contents.AtRest policy cluster home kind)
    (creation : Creation kind policy cluster exchanges events result)
    (served : (Reliable (Server.Accepts home)).Serves before exchanges after) :
    exchanges.map (·.call) = [.get kind (kind.home home)] ∧ result = .ok .done ∧
      after = before := by
  cases rests with
  | absent unwanted =>
    rw [wanted] at unwanted
    cases unwanted
  | @kept live desired _ there unmarked built same =>
    cases creation with
    | unbuilt unbuilt =>
      rw [built] at unbuilt
      cases unbuilt
    | built placed' built' provision =>
      obtain rfl := placed'.unique placed
      obtain rfl := Except.ok.inj (built'.symm.trans built)
      cases provision with
      | unread error =>
        obtain ⟨⟨⟩, -⟩ := Reliable.reading_first (fun _ _ => Server.accepts_get) served
      | pending marked =>
        obtain ⟨kept, -⟩ := Reliable.found_first (fun _ _ => Server.accepts_get) served
        obtain rfl := Option.some.inj (kept.symm.trans there)
        rw [unmarked] at marked
        cases marked
      | inSync =>
        obtain ⟨-, last⟩ := Reliable.found_first (fun _ _ => Server.accepts_get) served
        exact ⟨rfl, rfl, Backend.serves_nil_iff.1 last⟩
      | notCreated | created =>
        obtain ⟨kept, -⟩ := Reliable.found_first (fun _ _ => Server.accepts_get) served
        cases kept.symm.trans there
      | notReplaced _ _ drifted | replaced _ _ drifted =>
        obtain ⟨kept, -⟩ := Reliable.found_first (fun _ _ => Server.accepts_get) served
        obtain rfl := Option.some.inj (kept.symm.trans there)
        rw [same] at drifted
        cases drifted

theorem Kind.Deletion.quiet {kind : Kind} {result : Except OperatorError RequeueHint}
    (placed : cluster.IsAt home) (unwanted : kind.shouldExist cluster = false)
    (rests : before.contents.AtRest policy cluster home kind)
    (deletion : Deletion kind cluster exchanges events result)
    (served : (Reliable (Server.Accepts home)).Serves before exchanges after) :
    exchanges.map (·.call) = [.get kind (kind.home home)] ∧ result = .ok .done ∧
      after = before := by
  cases rests with
  | kept wanted =>
    rw [unwanted] at wanted
    cases wanted
  | absent _ gone =>
    cases deletion with
    | unplaced unplaced =>
      rw [keyFor_of_isAt kind placed] at unplaced
      cases unplaced
    | placed placed' removal =>
      obtain rfl := placed'.unique placed
      cases removal with
      | unread error =>
        obtain ⟨⟨⟩, -⟩ := Reliable.reading_first (fun _ _ => Server.accepts_get) served
      | absent =>
        obtain ⟨-, last⟩ := Reliable.found_first (fun _ _ => Server.accepts_get) served
        exact ⟨rfl, rfl, Backend.serves_nil_iff.1 last⟩
      | marked | refused | deleted | vanished =>
        obtain ⟨kept, -⟩ := Reliable.found_first (fun _ _ => Server.accepts_get) served
        cases kept.symm.trans gone

namespace Orchestrator

def passOrder (cluster : Cluster) : List Kind :=
  if cluster.nfsEnabled then creationOrder else deletionOrder

variable {result : Except OperatorError RequeueHint}

private theorem InTurn.quiet
    {course : Kind → List Exchange → List Event → Except OperatorError RequeueHint → Prop}
    {kinds : List Kind} (turns : InTurn course kinds exchanges events result)
    (served : (Reliable (Server.Accepts home)).Serves before exchanges after)
    (here : ∀ kind exchanges events result, course kind exchanges events result → ∀ next,
      (Reliable (Server.Accepts home)).Serves before exchanges next →
      exchanges.map (·.call) = [.get kind (kind.home home)] ∧ result = .ok .done ∧ next = before) :
    exchanges.map (·.call) = kinds.map (fun kind => .get kind (kind.home home)) ∧
      result = .ok .done ∧ after = before := by
  induction turns generalizing before with
  | finished => exact ⟨rfl, rfl, Backend.serves_nil_iff.1 served⟩
  | failed turn => obtain ⟨-, ⟨⟩, -⟩ := here _ _ _ _ turn _ served
  | passed turn _ ih =>
    obtain ⟨between, early, late⟩ := Backend.serves_append_iff.1 served
    obtain ⟨calls, -, rfl⟩ := here _ _ _ _ turn _ early
    obtain ⟨others, ended, same⟩ := ih late here
    exact ⟨by rw [List.map_append, calls, others]; rfl, ended, same⟩

theorem Course.quiet (placed : cluster.IsAt home)
    (rests : ∀ kind, before.contents.AtRest policy cluster home kind)
    (course : Course policy cluster cluster.nfsEnabled exchanges events result)
    (served : (Reliable (Server.Accepts home)).Serves before exchanges after) :
    exchanges.map (·.call) =
        (passOrder cluster).map (fun kind => .get kind (kind.home home)) ∧
      result = .ok .done ∧ after = before := by
  rw [passOrder]
  generalize creating : cluster.nfsEnabled = created at course
  cases course with
  | deletions turns =>
    exact turns.quiet served fun kind _ _ _ turn _ early =>
      turn.quiet placed creating (rests kind) early
  | creations turns =>
    exact turns.quiet served fun kind _ _ _ turn _ early =>
      turn.quiet placed creating (rests kind) early

end Orchestrator

namespace Reconcile

/-- An exchange that leaves all of a cluster but its status as it is, and this not in doubt. -/
inductive Plain : Exchange → Prop
  | managed {exchange : Exchange} {kind : Kind} (about : exchange.About kind) : Plain exchange
  | recorded {key : ObjectKey} {phase : Phase} : Plain ⟨.setPhase key phase, .ok ()⟩

theorem parent_of_plain {served : V1alpha1.Cluster} (kept : before.parent = some served)
    (plain : ∀ exchange ∈ exchanges, Plain exchange)
    (serves : (Unreliable (Server.Accepts home)).Serves before exchanges after) :
    ∃ status, after.parent = some { served with status := status } ∧
      status.map (·.phase) = phaseAfter (served.status.map (·.phase)) exchanges := by
  -- Each patch leaves another cluster for the calls that follow, so this is about any cluster.
  induction serves generalizing served with
  | nil => exact ⟨served.status, kept, rfl⟩
  | @cons call answer first second third rest here _ ih =>
    obtain ⟨head, others⟩ := List.forall_mem_cons.1 plain
    generalize told : (⟨call, answer⟩ : Exchange) = exchange at head
    cases head with
    | @managed _ kind about =>
      subst told
      have unphased : Unphased [⟨call, answer⟩] := by
        apply unphased_singleton
        rintro key phase rfl
        obtain ⟨_, concerns⟩ := about
        cases concerns
      obtain ⟨status, later, shown⟩ := ih (by
        obtain ⟨key, concerns⟩ := about
        rw [Server.parent_eq here (by rw [concerns]; rintro ⟨⟩)]
        exact kept) others
      refine ⟨status, later, shown.trans ?_⟩
      rw [← List.singleton_append, phaseAfter_append, unphased.phaseAfter_eq]
    | recorded =>
      cases told
      cases here with
      | accepted taken =>
        cases taken with
        | managed taken => cases taken
        | setPhase time there =>
          obtain rfl := Option.some.inj (there.symm.trans kept)
          obtain ⟨status, later, shown⟩ := ih rfl others
          exact ⟨status, later, shown⟩

variable {subject : Subject} {action : Action}

theorem Announcement.plain {key : ObjectKey} {phase : Phase} {needed : Bool}
    (announcement : Announcement key phase needed exchanges (.ok ())) :
    ∀ exchange ∈ exchanges, Plain exchange := by
  cases announcement with
  | unneeded => exact fun _ member => absurd member List.not_mem_nil
  | recorded => exact List.forall_mem_singleton.2 .recorded

theorem Application.plain (application : Application subject policy exchanges (.ok action)) :
    ∀ exchange ∈ exchanges, Plain exchange := by
  cases application with
  | applied begun made closed =>
    refine List.forall_mem_append.2 ⟨begun.plain, List.forall_mem_append.2 ⟨?_, closed.plain⟩⟩
    intro exchange member
    obtain ⟨kind, about⟩ := made.about exchange member
    exact .managed about

theorem Application.atRest (application : Application subject policy exchanges (.ok action))
    (placed : subject.cluster.IsAt home)
    (served : (Unreliable (Server.Accepts home)).Serves before exchanges after) (kind : Kind) :
    after.contents.AtRest policy subject.cluster home kind := by
  cases application with
  | applied begun made closed =>
    obtain ⟨between, -, rest⟩ := Backend.serves_append_iff.1 served
    obtain ⟨next, here, last⟩ := Backend.serves_append_iff.1 rest
    refine (made.atRest placed here kind).of_object_eq (Server.object_eq last ?_)
    intro exchange member concerns
    exact absurd (concerns.symm.trans (closed.unmanaged exchange member)) (by simp)

theorem Application.action_eq (application : Application subject policy exchanges (.ok action)) :
    action = RequeueHint.done.toAction policy.settings.controller.requeueInterval := by
  cases application with
  | applied _ made _ => rw [made.hint_eq]

theorem Application.quiet {result : Except OperatorError Action}
    (application : Application subject policy exchanges result) (placed : subject.cluster.IsAt home)
    (shown : subject.cluster.status.map (·.phase) = some Phase.ready.text)
    (rests : ∀ kind, before.contents.AtRest policy subject.cluster home kind)
    (served : (Reliable (Server.Accepts home)).Serves before exchanges after) :
    exchanges.map (·.call) =
        (Orchestrator.passOrder subject.cluster).map (fun kind => .get kind (kind.home home)) ∧
      result = .ok (RequeueHint.done.toAction policy.settings.controller.requeueInterval) ∧
      after = before := by
  obtain ⟨status, there, phase⟩ := Option.map_eq_some_iff.1 shown
  have begins : subject.cluster.status.isNone = false := by
    rw [there]
    rfl
  have ends : needsPhase subject.cluster.status .ready = false := by
    rw [there]
    simpa [needsPhase] using phase
  cases application with
  | notBegun begun =>
    rw [begins] at begun
    cases begun
  | notMade begun made =>
    rw [begins] at begun
    cases begun
    obtain ⟨-, ⟨⟩, -⟩ := made.quiet placed rests served
  | notRecorded _ _ closed =>
    rw [ends] at closed
    cases closed
  | applied begun made closed =>
    rw [begins] at begun
    rw [ends] at closed
    cases begun
    cases closed
    rw [List.nil_append, List.append_nil] at served ⊢
    obtain ⟨calls, -, same⟩ := made.quiet placed rests served
    exact ⟨calls, by rw [made.hint_eq], same⟩

theorem Course.application {served : V1alpha1.Cluster} {settings : Settings}
    {result : Except OperatorError Action} (placed : served.toCluster.IsAt home)
    (carried : clusterFinalizer ∈ served.finalizers) (unmarked : served.metadata.isDeleting = false)
    (course : Course served (some settings) exchanges result) :
    Application ⟨served, home.namespace⟩ ⟨V1alpha1.Cluster.scheme, settings⟩ exchanges result := by
  have space : served.metadata.namespace = some home.namespace := placed.namespace
  have name : served.metadata.name = some home.name := placed.name
  cases course with
  | unplaced missing => rw [space] at missing; cases missing
  | unsettled missing => cases missing
  | unnamed missing => rw [name] at missing; cases missing
  | released absent | notAdopted _ absent | adopted absent => exact absurd carried absent
  | applied space' set _ _ application =>
    obtain rfl := Option.some.inj (space'.symm.trans space)
    obtain rfl := Option.some.inj set
    exact application
  | notCleaned _ _ _ marked | notReleased _ _ _ _ marked | cleaned _ _ _ marked =>
    rw [unmarked] at marked
    cases marked

end Reconcile

namespace Session

open Reconcile

/-- After a pass that ended well, another one over the cluster as it was left only reads the
resources. -/
theorem quiet_of_applied {served again : V1alpha1.Cluster} {settings : Settings} {action : Action}
    {status : Option ClusterStatus} {second : List Exchange} {last : Server}
    {result : Except OperatorError Action} (placed : served.toCluster.IsAt home)
    (carried : clusterFinalizer ∈ served.finalizers) (unmarked : served.metadata.isDeleting = false)
    (application : Application ⟨served, home.namespace⟩ ⟨V1alpha1.Cluster.scheme, settings⟩
      exchanges (.ok action))
    (serves : (Unreliable (Server.Accepts home)).Serves before exchanges after)
    (shown : status.map (·.phase) = some Phase.ready.text)
    (rereads : ({ served with status := status } : V1alpha1.Cluster).Rereads again)
    (course : Course again (some settings) second result)
    (servesAgain : (Reliable (Server.Accepts home)).Serves after second last) :
    second.map (·.call) = (Orchestrator.passOrder served.toCluster).map
        (fun kind => .get kind (kind.home home)) ∧
      result = .ok action ∧ last = after := by
  have placedAgain : again.toCluster.IsAt home :=
    ⟨rereads.name.trans placed.name, rereads.namespace.trans placed.namespace⟩
  have place : again.toCluster.SamePlace served.toCluster := ⟨rereads.name, rereads.namespace⟩
  have alike : again.toCluster.WantsAlike served.toCluster :=
    place.wantsAlike rereads.uid (congrArg V1alpha1.ClusterSpec.toSpec rereads.spec)
  have enabled : again.toCluster.nfsEnabled = served.toCluster.nfsEnabled := alike.nfsEnabled
  -- What a resource should be does not depend on what may have changed in the cluster meanwhile.
  have rests : ∀ kind, after.contents.AtRest ⟨V1alpha1.Cluster.scheme, settings⟩ again.toCluster
      home kind := by
    intro kind
    have desired := kind.desired_eq alike (.refl settings.controller) V1alpha1.Cluster.scheme
    cases application.atRest placed serves kind with
    | kept wanted there unmarked built same =>
      exact .kept (enabled.trans wanted) there unmarked (desired.trans built) same
    | absent unwanted gone => exact .absent (enabled.trans unwanted) gone
  have carriedAgain : clusterFinalizer ∈ again.finalizers := by
    rw [V1alpha1.Cluster.finalizers, rereads.finalizers]
    exact carried
  have unmarkedAgain : again.metadata.isDeleting = false := by
    rw [ObjectMeta.isDeleting, rereads.deletion]
    exact unmarked
  have ready : again.toCluster.status.map (·.phase) = some Phase.ready.text := by
    rw [V1alpha1.Cluster.toCluster, rereads.status]
    exact shown
  obtain ⟨calls, ended, same⟩ :=
    (course.application placedAgain carriedAgain unmarkedAgain).quiet placedAgain ready rests
      servesAgain
  refine ⟨?_, ?_, same⟩
  · rw [calls, Orchestrator.passOrder, Orchestrator.passOrder]
    change List.map _ (if again.toCluster.nfsEnabled then _ else _) = _
    rw [enabled]
  · rw [ended, application.action_eq]

/-- One pass brings all resources of a cluster in line, whatever they were like, unless one of them
is marked for deletion. And once a pass over a cluster has ended well, the next one over what it has
left reads each resource once, and that is all. -/
theorem settles_then_rests {σ τ ρ : Type} (home : ObjectKey) :
    (∀ (policy : Policy) (cluster : Cluster) (uid : String)
        (server : Implementation (Reliable Contents.Accepts) σ) (state : σ),
      cluster.IsAt home → cluster.metadata.uid = some uid → cluster.nfsEnabled = true →
      (server.view state).Renewable →
      (∀ (kind : Kind) live, (server.view state).object (kind.place home) = some live →
        live.metadata.isDeleting = false) →
      let pass := Orchestrator.ensureCreated (Orchestrator.nfs policy) cluster
      (pass.run server.answer state).result = .ok .done ∧
      (∀ kind, (pass.history server.answer state).countP (·.writes kind) ≤ 1) ∧
      ∀ kind, (server.view state).Establishes policy cluster home
        (server.view (pass.run server.answer state).state) kind) ∧
    ∀ (served : V1alpha1.Cluster) (settings : Settings)
        (first : Implementation (Unreliable (Server.Accepts home)) τ) (state : τ) (action : Action),
      (first.view state).parent = some served → served.toCluster.IsAt home →
      clusterFinalizer ∈ served.finalizers → served.metadata.isDeleting = false →
      let outcome := (Reconcile.cluster served (some settings)).run first.answer state
      outcome.result = .ok action →
      ∃ status, (first.view outcome.state).parent = some { served with status := status } ∧
        ∀ (again : V1alpha1.Cluster) (second : Implementation (Reliable (Server.Accepts home)) ρ)
            (resumed : ρ),
          ({ served with status := status } : V1alpha1.Cluster).Rereads again →
          second.view resumed = first.view outcome.state →
          let pass := Reconcile.cluster again (some settings)
          (pass.history second.answer resumed).map (·.call) =
            (Orchestrator.passOrder served.toCluster).map
              (fun kind => .get kind (kind.home home)) ∧
          (pass.run second.answer resumed).result = .ok action ∧
          second.view (pass.run second.answer resumed).state = second.view resumed := by
  constructor
  · intro policy cluster uid server state placed identified enabled renewable unmarked pass
    obtain ⟨owner, owned⟩ := policy.scheme.exists_controllerRef placed.name identified
    exact Orchestrator.establishes_of_ends placed owned enabled renewable unmarked
      (pass.ends_run server.answer state) (server.serves_history pass state)
  · intro served settings first state action kept placed carried unmarked outcome ok
    have ended := (Reconcile.cluster served (some settings)).ends_run first.answer state
    have serves := first.serves_history (Reconcile.cluster served (some settings)) state
    have application := (course_of_ends ended).application placed carried unmarked
    rw [show ((Reconcile.cluster served (some settings)).run first.answer state).result =
      .ok action from ok]
      at application
    obtain ⟨status, parent, shown⟩ := parent_of_plain kept application.plain serves
    refine ⟨status, parent, fun again second resumed rereads resumes => ?_⟩
    have servesAgain := second.serves_history (Reconcile.cluster again (some settings)) resumed
    rw [resumes] at servesAgain ⊢
    exact quiet_of_applied placed carried unmarked application serves
      (shown.trans application.shown) rereads
      (course_of_ends ((Reconcile.cluster again (some settings)).ends_run second.answer resumed))
      servesAgain

def phasesOnly (home : ObjectKey) : Implementation (Unreliable (Server.Accepts home)) Server where
  view := id
  answer
    | .get kind key, server => (.ok (server.contents.object ⟨kind, key⟩), server)
    | .setPhase key phase, server =>
      if key = home then
        match server.parent with
        | some cluster =>
          (.ok (), ⟨server.contents, some { cluster with status := some ⟨phase.text, none⟩ }⟩)
        | none => (.error (.notFound key.name), server)
      else (.error (.notFound key.name), server)
    | .create _ _ _, server | .replace _ _ _, server => (.error (.store "read only"), server)
    | .delete _ _, server | .addFinalizer _ _, server | .removeFinalizer _ _, server =>
      (.error (.store "read only"), server)
  serves call server := by
    cases call with
    | get kind key => exact .accepted (.managed (.get kind key))
    | setPhase key phase =>
      by_cases same : key = home
      · subst same
        cases kept : server.parent with
        | none =>
          simp only [if_pos, kept]
          exact .failed _
        | some cluster =>
          simp only [if_pos, kept]
          exact .accepted (.setPhase none kept)
      · simp only [if_neg same]
        exact .failed _
    | _ => exact .failed _

def idleSample : V1alpha1.Cluster :=
  { servedSample with spec := {}, status := none }

theorem sample_settles_then_rests :
    (let server := Implementation.choosing (Reliable.exists_answer Contents.Accepts)
    let pass := Orchestrator.ensureCreated (Orchestrator.nfs ⟨V1alpha1.Cluster.scheme, {}⟩) .sample
    ∀ kind, Fleet.strayContents.Establishes ⟨V1alpha1.Cluster.scheme, {}⟩ .sample Cluster.sampleKey
      (pass.run server.answer Fleet.strayContents).state kind) ∧
    let first := (Reconcile.cluster idleSample (some {})).run (phasesOnly Cluster.sampleKey).answer
      ⟨Contents.empty, some idleSample⟩
    let server :=
      Implementation.choosing (Reliable.exists_answer (Server.Accepts Cluster.sampleKey))
    ∃ left, first.state.parent = some left ∧
      ((Reconcile.cluster left (some {})).history server.answer first.state).map (·.call) =
        [.get .service (Kind.service.home Cluster.sampleKey),
          .get .exporter (Kind.exporter.home Cluster.sampleKey),
          .get .blockPool (Kind.blockPool.home Cluster.sampleKey)] := by
  obtain ⟨settles, rests⟩ := settles_then_rests Cluster.sampleKey
  constructor
  · intro server pass
    have renewable : Fleet.strayContents.Renewable := Contents.renewable_empty.store _ _ _
    refine (settles ⟨V1alpha1.Cluster.scheme, {}⟩ .sample "7c1f" server Fleet.strayContents
      Cluster.sample_isAt rfl rfl renewable ?_).2.2
    intro kind live there
    change Fleet.strayContents.object (kind.place Cluster.sampleKey) = some live at there
    by_cases same : kind = .service
    · subst same
      obtain rfl := Option.some.inj ((Contents.store_object_self _ _ _).symm.trans there)
      rfl
    · cases (Contents.store_object_of_ne _ _ _ (Kind.place_ne same _)).symm.trans there
  · intro first server
    obtain ⟨status, left, quiet⟩ := rests idleSample {} (phasesOnly Cluster.sampleKey)
      ⟨Contents.empty, some idleSample⟩ _ rfl ⟨rfl, rfl⟩ (by decide) rfl rfl
    exact ⟨_, left, (quiet _ server first.state ⟨⟨rfl, rfl, rfl, rfl⟩, rfl, rfl, rfl⟩ rfl).1⟩

end Session

end CephExport
