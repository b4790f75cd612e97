import CephExport.Proofs.Pass.History
import CephExport.Proofs.Pass.Resource
import CephExport.Proofs.Resource.Addressable
import CephExport.Reconcile.Orchestrator

/-!
All the courses that the passes over one resource, and over the resources of a cluster one after
another, can take: which calls they make, how these are answered, what they report, and how they
end. Statements about whole passes are proved by going through these lists.
-/

set_option autoImplicit false
set_option relaxedAutoImplicit false

namespace CephExport

namespace Kind

variable (kind : Kind) (key : ObjectKey)

inductive Confirmation : List Exchange → List Event → Except OperatorError RequeueHint → Prop
  | failed (error : OperatorError) :
      Confirmation [⟨.get kind key, .error error⟩] [] (.error error)
  | gone : Confirmation [⟨.get kind key, .ok none⟩] [kind.event key .deleted] (.ok .done)
  | present (live : Managed kind) :
      Confirmation [⟨.get kind key, .ok (some live)⟩] [kind.event key .waiting]
        (.error (.stillDeleting kind.name key.name))

inductive Request : List Exchange → List Event → Except OperatorError Unit → Prop
  | refused (error : OperatorError) (other : error.isNotFound = false) :
      Request [⟨.delete kind key, .error error⟩] [kind.event key .deleting] (.error error)
  | deleted : Request [⟨.delete kind key, .ok ()⟩] [kind.event key .deleting] (.ok ())
  | vanished (error : OperatorError) (missing : error.isNotFound = true) :
      Request [⟨.delete kind key, .error error⟩]
        [kind.event key .deleting, kind.event key .alreadyDeleted] (.ok ())

/-- The courses of the pass that makes sure that a resource is gone. -/
inductive Removal : List Exchange → List Event → Except OperatorError RequeueHint → Prop
  | unread (error : OperatorError) : Removal [⟨.get kind key, .error error⟩] [] (.error error)
  | absent : Removal [⟨.get kind key, .ok none⟩] [kind.event key .notFound] (.ok .done)
  | marked {live : Managed kind} {exchanges : List Exchange} {events : List Event}
      {result : Except OperatorError RequeueHint} (marked : live.metadata.isDeleting = true)
      (confirmed : Confirmation kind key exchanges events result) :
      Removal (⟨.get kind key, .ok (some live)⟩ :: exchanges) events result
  | refused {live : Managed kind} (error : OperatorError)
      (unmarked : live.metadata.isDeleting = false) (other : error.isNotFound = false) :
      Removal [⟨.get kind key, .ok (some live)⟩, ⟨.delete kind key, .error error⟩]
        [kind.event key .deleting] (.error error)
  | deleted {live : Managed kind} {exchanges : List Exchange} {events : List Event}
      {result : Except OperatorError RequeueHint} (unmarked : live.metadata.isDeleting = false)
      (confirmed : Confirmation kind key exchanges events result) :
      Removal (⟨.get kind key, .ok (some live)⟩ :: ⟨.delete kind key, .ok ()⟩ :: exchanges)
        (kind.event key .deleting :: events) result
  | vanished {live : Managed kind} {exchanges : List Exchange} {events : List Event}
      {result : Except OperatorError RequeueHint} (error : OperatorError)
      (unmarked : live.metadata.isDeleting = false) (missing : error.isNotFound = true)
      (confirmed : Confirmation kind key exchanges events result) :
      Removal (⟨.get kind key, .ok (some live)⟩ :: ⟨.delete kind key, .error error⟩ :: exchanges)
        (kind.event key .deleting :: kind.event key .alreadyDeleted :: events) result

/-- The courses of the pass that makes sure that a wanted object is in the store. -/
inductive Provision (desired : Managed kind) :
    List Exchange → List Event → Except OperatorError RequeueHint → Prop
  | unread (error : OperatorError) :
      Provision desired [⟨.get kind key, .error error⟩] [] (.error error)
  | pending {live : Managed kind} (marked : live.metadata.isDeleting = true) :
      Provision desired [⟨.get kind key, .ok (some live)⟩] [kind.event key .pendingDeletion]
        (.error (.pendingDeletion kind.name key.name))
  | inSync {live : Managed kind} (unmarked : live.metadata.isDeleting = false)
      (same : live.drifted desired = false) :
      Provision desired [⟨.get kind key, .ok (some live)⟩]
        (live.driftNotices desired ++ [kind.event key .inSync]) (.ok .done)
  | notCreated (error : OperatorError) :
      Provision desired
        [⟨.get kind key, .ok none⟩, ⟨.create kind key.namespace desired, .error error⟩]
        [kind.event key .creating] (.error error)
  | created (reply : Managed kind) :
      Provision desired
        [⟨.get kind key, .ok none⟩, ⟨.create kind key.namespace desired, .ok reply⟩]
        [kind.event key .creating] (.ok .done)
  | notReplaced {live : Managed kind} (error : OperatorError)
      (unmarked : live.metadata.isDeleting = false) (drifted : live.drifted desired = true) :
      Provision desired
        [⟨.get kind key, .ok (some live)⟩, ⟨.replace kind key (live.merge desired), .error error⟩]
        (live.driftNotices desired ++ [kind.event key .updating]) (.error error)
  | replaced {live : Managed kind} (reply : Managed kind)
      (unmarked : live.metadata.isDeleting = false) (drifted : live.drifted desired = true) :
      Provision desired
        [⟨.get kind key, .ok (some live)⟩, ⟨.replace kind key (live.merge desired), .ok reply⟩]
        (live.driftNotices desired ++ [kind.event key .updating]) (.ok .done)

variable {kind key} {exchanges : List Exchange} {events : List Event}
  {result : Except OperatorError RequeueHint}

theorem confirmation_of_ends (ended : (kind.confirmDeleted key).Ends exchanges events result) :
    Confirmation kind key exchanges events result := by
  rw [confirmDeleted, Pass.ends_perform_bind_iff] at ended
  rcases ended with ⟨error, rfl, rfl, rfl⟩ | ⟨_ | live, later, rfl, went⟩
  · exact .failed error
  · obtain ⟨_, rfl, last⟩ := Pass.ends_log_bind_iff.1 went
    obtain ⟨rfl, rfl, rfl⟩ := Pass.ends_pure_iff.1 last
    exact .gone
  · obtain ⟨_, rfl, last⟩ := Pass.ends_log_bind_iff.1 went
    obtain ⟨rfl, rfl, rfl⟩ := Pass.ends_fail_iff.1 last
    exact .present live

theorem request_of_ends {result : Except OperatorError Unit}
    (ended : (kind.requestDeletion key).Ends exchanges events result) :
    Request kind key exchanges events result := by
  rw [requestDeletion, Pass.ends_log_bind_iff] at ended
  obtain ⟨_, rfl, asked⟩ := ended
  obtain ⟨error | _, later, rfl, went⟩ := Pass.ends_attempt_bind_iff.1 asked
  · by_cases missing : error.isNotFound = true
    · simp only [if_pos missing] at went
      obtain ⟨_, rfl, last⟩ := Pass.ends_report_iff.1 went
      obtain ⟨rfl, rfl, rfl⟩ := Pass.ends_done_iff.1 last
      exact .vanished error missing
    · simp only [if_neg missing] at went
      obtain ⟨rfl, rfl, rfl⟩ := Pass.ends_fail_iff.1 went
      exact .refused error (Bool.eq_false_iff.2 missing)
  · obtain ⟨rfl, rfl, rfl⟩ := Pass.ends_pure_iff.1 went
    exact .deleted

theorem removal_of_ends (ended : (kind.deleteAt key).Ends exchanges events result) :
    Removal kind key exchanges events result := by
  rw [deleteAt, Pass.ends_perform_bind_iff] at ended
  rcases ended with ⟨error, rfl, rfl, rfl⟩ | ⟨_ | live, later, rfl, went⟩
  · exact .unread error
  · obtain ⟨_, rfl, last⟩ := Pass.ends_log_bind_iff.1 went
    obtain ⟨rfl, rfl, rfl⟩ := Pass.ends_pure_iff.1 last
    exact .absent
  · by_cases marked : live.metadata.isDeleting = true
    · simp only [if_pos marked] at went
      exact .marked marked (confirmation_of_ends went)
    · have unmarked := Bool.eq_false_iff.2 marked
      simp only [if_neg marked, Pass.ends_bind_iff] at went
      rcases went with ⟨error, asked, rfl⟩ | ⟨_, _, _, _, _, asked, readBack, rfl, rfl⟩
      · cases request_of_ends asked with
        | refused _ other => exact .refused error unmarked other
      · have confirmed := confirmation_of_ends readBack
        cases request_of_ends asked with
        | deleted => exact .deleted unmarked confirmed
        | vanished error missing => exact .vanished error unmarked missing confirmed

theorem provision_of_ends {desired : Managed kind}
    (ended : (kind.createAt key desired).Ends exchanges events result) :
    Provision kind key desired exchanges events result := by
  rw [createAt, Pass.ends_perform_bind_iff] at ended
  rcases ended with ⟨error, rfl, rfl, rfl⟩ | ⟨_ | live, later, rfl, went⟩
  · exact .unread error
  · obtain ⟨_, rfl, made⟩ := Pass.ends_log_bind_iff.1 went
    rcases Pass.ends_perform_bind_iff.1 made with ⟨error, rfl, rfl, rfl⟩ | ⟨reply, _, rfl, last⟩
    · exact .notCreated error
    · obtain ⟨rfl, rfl, rfl⟩ := Pass.ends_pure_iff.1 last
      exact .created reply
  · by_cases marked : live.metadata.isDeleting = true
    · simp only [if_pos marked] at went
      obtain ⟨_, rfl, last⟩ := Pass.ends_log_bind_iff.1 went
      obtain ⟨rfl, rfl, rfl⟩ := Pass.ends_fail_iff.1 last
      exact .pending marked
    · have unmarked := Bool.eq_false_iff.2 marked
      simp only [if_neg marked, update, Pass.ends_logAll_bind_iff] at went
      obtain ⟨_, rfl, compared⟩ := went
      by_cases drifted : live.drifted desired = true
      · rw [if_pos drifted] at compared
        obtain ⟨_, rfl, made⟩ := Pass.ends_log_bind_iff.1 compared
        rcases Pass.ends_perform_bind_iff.1 made with
          ⟨error, rfl, rfl, rfl⟩ | ⟨reply, _, rfl, last⟩
        · exact .notReplaced error unmarked drifted
        · obtain ⟨rfl, rfl, rfl⟩ := Pass.ends_pure_iff.1 last
          exact .replaced reply unmarked drifted
      · rw [if_neg drifted] at compared
        obtain ⟨_, rfl, last⟩ := Pass.ends_log_bind_iff.1 compared
        obtain ⟨rfl, rfl, rfl⟩ := Pass.ends_pure_iff.1 last
        exact .inSync unmarked (Bool.eq_false_iff.2 drifted)

theorem Confirmation.concerns (confirmed : Confirmation kind key exchanges events result) :
    ∀ exchange ∈ exchanges, exchange.Concerns ⟨kind, key⟩ := by
  cases confirmed <;> exact List.forall_mem_singleton.2 rfl

theorem Removal.concerns (removal : Removal kind key exchanges events result) :
    ∀ exchange ∈ exchanges, exchange.Concerns ⟨kind, key⟩ := by
  cases removal with
  | unread | absent => exact List.forall_mem_singleton.2 rfl
  | marked _ confirmed => exact List.forall_mem_cons.2 ⟨rfl, confirmed.concerns⟩
  | refused => exact List.forall_mem_cons.2 ⟨rfl, List.forall_mem_singleton.2 rfl⟩
  | deleted _ confirmed | vanished _ _ _ confirmed =>
    exact List.forall_mem_cons.2 ⟨rfl, List.forall_mem_cons.2 ⟨rfl, confirmed.concerns⟩⟩

theorem Provision.concerns {desired : Managed kind}
    (named : desired.metadata.displayName = key.name)
    (provision : Provision kind key desired exchanges events result) :
    ∀ exchange ∈ exchanges, exchange.Concerns ⟨kind, key⟩ := by
  have place : (Call.create kind key.namespace desired).place? = some ⟨kind, key⟩ := by
    rw [Call.place?, named]
  cases provision with
  | unread | pending | inSync => exact List.forall_mem_singleton.2 rfl
  | notCreated | created => exact List.forall_mem_cons.2 ⟨rfl, List.forall_mem_singleton.2 place⟩
  | notReplaced | replaced => exact List.forall_mem_cons.2 ⟨rfl, List.forall_mem_singleton.2 rfl⟩

theorem Removal.countP_writes_le (removal : Removal kind key exchanges events result) :
    exchanges.countP (·.writes kind) ≤ 1 := by
  have reads : ∀ {later : List Exchange} {said : List Event}
      {ending : Except OperatorError RequeueHint},
      Confirmation kind key later said ending → later.countP (·.writes kind) = 0 := by
    rintro _ _ _ (_ | _ | _) <;> rfl
  cases removal with
  | unread | absent => exact Nat.zero_le 1
  | marked _ confirmed => simp [reads confirmed]
  | refused => simp
  | deleted _ confirmed | vanished _ _ _ confirmed => simp [reads confirmed]

theorem Provision.countP_writes_le {desired : Managed kind}
    (provision : Provision kind key desired exchanges events result) :
    exchanges.countP (·.writes kind) ≤ 1 := by
  cases provision <;> simp

theorem Confirmation.hint_eq {hint : RequeueHint}
    (confirmed : Confirmation kind key exchanges events (.ok hint)) : hint = .done := by
  cases confirmed
  rfl

theorem Removal.hint_eq {hint : RequeueHint}
    (removal : Removal kind key exchanges events (.ok hint)) : hint = .done := by
  cases removal with
  | absent => rfl
  | marked _ confirmed | deleted _ confirmed | vanished _ _ _ confirmed => exact confirmed.hint_eq

theorem Provision.hint_eq {desired : Managed kind} {hint : RequeueHint}
    (provision : Provision kind key desired exchanges events (.ok hint)) : hint = .done := by
  cases provision <;> rfl

end Kind

inductive Cluster.Lacks (cluster : Cluster) : OperatorError → Prop
  | name (missing : cluster.metadata.name = none) :
      Lacks cluster (.missingKey "Expected StorageCluster to have metadata.name")
  | «namespace» (missing : cluster.metadata.namespace = none) :
      Lacks cluster
        (.missingKey "Expected StorageCluster to be namespaced via metadata.namespace")
  | uid (missing : cluster.metadata.uid = none) :
      Lacks cluster (.missingKey "Expected parent to have metadata.uid")

theorem Cluster.LacksPlace.lacks {cluster : Cluster} {error : OperatorError}
    (unplaced : cluster.LacksPlace error) : cluster.Lacks error := by
  cases unplaced with
  | name missing => exact .name missing
  | «namespace» _ missing => exact .namespace missing

theorem Cluster.LacksFirst.lacks {cluster : Cluster} {error : OperatorError}
    (first : cluster.LacksFirst error) : cluster.Lacks error := by
  cases first with
  | place unplaced => exact unplaced.lacks
  | uid _ missing => exact .uid missing

namespace Kind

variable {kind : Kind} {policy : Policy} {cluster : Cluster}

theorem lacks_of_keyFor {error : OperatorError} (h : kind.keyFor cluster = .error error) :
    cluster.Lacks error := (keyFor_eq_error_iff.1 h).lacks

theorem lacks_of_desired {scheme : OwnerScheme} {settings : Settings} {error : OperatorError}
    (h : kind.desired cluster scheme settings = .error error) : cluster.Lacks error :=
  (desired_eq_error_iff.1 h).lacks

variable (kind policy cluster)

inductive Deletion : List Exchange → List Event → Except OperatorError RequeueHint → Prop
  | unplaced {error : OperatorError} (unplaced : kind.keyFor cluster = .error error) :
      Deletion [] [] (.error error)
  | placed {parent : ObjectKey} {exchanges : List Exchange} {events : List Event}
      {result : Except OperatorError RequeueHint} (placed : cluster.IsAt parent)
      (removal : Removal kind (kind.home parent) exchanges events result) :
      Deletion exchanges events result

inductive Creation : List Exchange → List Event → Except OperatorError RequeueHint → Prop
  | unbuilt {error : OperatorError}
      (unbuilt : kind.desired cluster policy.scheme policy.settings = .error error) :
      Creation [] [] (.error error)
  | built {parent : ObjectKey} {desired : Managed kind} {exchanges : List Exchange}
      {events : List Event} {result : Except OperatorError RequeueHint}
      (placed : cluster.IsAt parent)
      (built : kind.desired cluster policy.scheme policy.settings = .ok desired)
      (provision : Provision kind (kind.home parent) desired exchanges events result) :
      Creation exchanges events result

variable {kind policy cluster} {exchanges : List Exchange} {events : List Event}
  {result : Except OperatorError RequeueHint}

theorem deletion_of_ends (ended : (kind.ensureDeleted cluster).Ends exchanges events result) :
    Deletion kind cluster exchanges events result := by
  cases key : kind.keyFor cluster with
  | error error =>
    rw [ensureDeleted, key] at ended
    obtain ⟨rfl, rfl, rfl⟩ := Pass.ends_fail_iff.1 ended
    exact .unplaced key
  | ok home =>
    obtain ⟨parent, placed, -⟩ := exists_parent_of_keyFor key
    rw [ensureDeleted_of_isAt placed] at ended
    exact .placed placed (removal_of_ends ended)

theorem creation_of_ends (wanted : kind.shouldExist cluster = true)
    (ended : (kind.ensureCreated policy cluster).Ends exchanges events result) :
    Creation kind policy cluster exchanges events result := by
  rcases ensureCreated_cases kind policy wanted with
    ⟨error, unbuilt, failing⟩ | ⟨parent, desired, placed, built, creating⟩
  · rw [failing] at ended
    obtain ⟨rfl, rfl, rfl⟩ := Pass.ends_fail_iff.1 ended
    exact .unbuilt unbuilt
  · rw [creating] at ended
    exact .built placed built (provision_of_ends ended)

theorem Deletion.about (deletion : Deletion kind cluster exchanges events result) :
    ∀ exchange ∈ exchanges, exchange.About kind := by
  cases deletion with
  | unplaced => exact fun _ member => nomatch member
  | placed _ removal => exact fun exchange member => (removal.concerns exchange member).about

theorem Creation.about (creation : Creation kind policy cluster exchanges events result) :
    ∀ exchange ∈ exchanges, exchange.About kind := by
  cases creation with
  | unbuilt => exact fun _ member => nomatch member
  | built placed built provision =>
    have concerns := provision.concerns (displayName_of_desired placed built)
    exact fun exchange member => (concerns exchange member).about

theorem Deletion.countP_writes_le (deletion : Deletion kind cluster exchanges events result) :
    exchanges.countP (·.writes kind) ≤ 1 := by
  cases deletion with
  | unplaced => exact Nat.zero_le 1
  | placed _ removal => exact removal.countP_writes_le

theorem Creation.countP_writes_le
    (creation : Creation kind policy cluster exchanges events result) :
    exchanges.countP (·.writes kind) ≤ 1 := by
  cases creation with
  | unbuilt => exact Nat.zero_le 1
  | built _ _ provision => exact provision.countP_writes_le

theorem Deletion.hint_eq {hint : RequeueHint}
    (deletion : Deletion kind cluster exchanges events (.ok hint)) : hint = .done := by
  cases deletion with
  | placed _ removal => exact removal.hint_eq

theorem Creation.hint_eq {hint : RequeueHint}
    (creation : Creation kind policy cluster exchanges events (.ok hint)) : hint = .done := by
  cases creation with
  | built _ _ provision => exact provision.hint_eq

end Kind

namespace Orchestrator

/-- What happens when the resources of some kinds are passed over one after another: each pass takes
one of its courses, and the first that fails is the last. -/
inductive InTurn
    (course : Kind → List Exchange → List Event → Except OperatorError RequeueHint → Prop) :
    List Kind → List Exchange → List Event → Except OperatorError RequeueHint → Prop
  | finished : InTurn course [] [] [] (.ok .done)
  | failed {kind : Kind} {rest : List Kind} {exchanges : List Exchange} {events : List Event}
      {error : OperatorError} (here : course kind exchanges events (.error error)) :
      InTurn course (kind :: rest) exchanges events (.error error)
  | passed {kind : Kind} {rest : List Kind} {first second : List Exchange}
      {reported later : List Event} {result : Except OperatorError RequeueHint}
      (here : course kind first reported (.ok .done))
      (next : InTurn course rest second later result) :
      InTurn course (kind :: rest) (first ++ second) (reported ++ later) result

variable {policy : Policy} {cluster : Cluster} {exchanges : List Exchange} {events : List Event}
  {result : Except OperatorError RequeueHint}

private theorem inTurn_of_ends {pass : Kind → Pass RequeueHint}
    {course : Kind → List Exchange → List Event → Except OperatorError RequeueHint → Prop}
    (courses : ∀ kind exchanges events result, (pass kind).Ends exchanges events result →
      course kind exchanges events result)
    (quiet : ∀ kind exchanges events hint, course kind exchanges events (.ok hint) → hint = .done)
    (kinds : List Kind)
    (ended : (inOrder .done (kinds.map pass)).Ends exchanges events result) :
    InTurn course kinds exchanges events result := by
  induction kinds generalizing exchanges events with
  | nil =>
    obtain ⟨rfl, rfl, rfl⟩ := Pass.ends_pure_iff.1 ended
    exact .finished
  | cons kind rest ih =>
    rw [List.map_cons, inOrder, Pass.ends_bind_iff] at ended
    rcases ended with ⟨error, here, rfl⟩ | ⟨hint, _, _, _, _, here, later, rfl, rfl⟩
    · exact .failed (courses _ _ _ _ here)
    · have course := courses _ _ _ _ here
      obtain rfl := quiet _ _ _ _ course
      exact .passed course (ih later)

namespace InTurn

variable {course : Kind → List Exchange → List Event → Except OperatorError RequeueHint → Prop}
  {kinds : List Kind}

theorem about (about : ∀ kind exchanges events result, course kind exchanges events result →
      ∀ exchange ∈ exchanges, exchange.About kind)
    (turns : InTurn course kinds exchanges events result) :
    ∀ exchange ∈ exchanges, ∃ kind ∈ kinds, exchange.About kind := by
  induction turns with
  | finished => exact fun _ member => nomatch member
  | failed here =>
    exact fun exchange member => ⟨_, List.mem_cons_self, about _ _ _ _ here exchange member⟩
  | passed here _ ih =>
    intro exchange member
    rcases List.mem_append.1 member with first | second
    · exact ⟨_, List.mem_cons_self, about _ _ _ _ here exchange first⟩
    · obtain ⟨kind, among, isAbout⟩ := ih exchange second
      exact ⟨kind, List.mem_cons_of_mem _ among, isAbout⟩

theorem hint_eq {hint : RequeueHint} (turns : InTurn course kinds exchanges events (.ok hint)) :
    hint = .done := by
  generalize ending : (Except.ok hint : Except OperatorError RequeueHint) = result at turns
  induction turns with
  | finished => exact Except.ok.inj ending
  | failed => cases ending
  | passed _ _ ih => exact ih ending

theorem forall_exchange {property : Exchange → Prop}
    (each : ∀ kind exchanges events result, course kind exchanges events result →
      ∀ exchange ∈ exchanges, property exchange)
    (turns : InTurn course kinds exchanges events result) :
    ∀ exchange ∈ exchanges, property exchange := by
  induction turns with
  | finished => exact fun _ member => nomatch member
  | failed here => exact each _ _ _ _ here
  | passed here _ ih => exact List.forall_mem_append.2 ⟨each _ _ _ _ here, ih⟩

theorem countP_writes_le (about : ∀ kind exchanges events result,
      course kind exchanges events result → ∀ exchange ∈ exchanges, exchange.About kind)
    (once : ∀ kind exchanges events result, course kind exchanges events result →
      exchanges.countP (·.writes kind) ≤ 1)
    (distinct : kinds.Nodup) (turns : InTurn course kinds exchanges events result) (kind : Kind) :
    exchanges.countP (·.writes kind) ≤ 1 := by
  have alone : ∀ other exchanges events result, course other exchanges events result →
      exchanges.countP (·.writes kind) ≤ if other = kind then 1 else 0 := by
    intro other exchanges events result here
    by_cases same : other = kind
    · subst same
      simpa using once _ _ _ _ here
    · rw [if_neg same, Nat.le_zero, List.countP_eq_zero]
      intro exchange member writes
      exact same ((about _ _ _ _ here exchange member).unique (Exchange.about_of_writes writes))
  suffices exchanges.countP (·.writes kind) ≤ if kind ∈ kinds then 1 else 0 by
    refine this.trans ?_
    split <;> simp
  induction turns with
  | finished => simp
  | failed here =>
    refine (alone _ _ _ _ here).trans ?_
    split <;> simp_all
  | @passed other rest first second _ _ _ here _ ih =>
    obtain ⟨notLater, distinct⟩ := List.nodup_cons.1 distinct
    have early := alone _ _ _ _ here
    have late := ih distinct
    rw [List.countP_append]
    by_cases same : other = kind
    · subst same
      rw [if_pos rfl] at early
      rw [if_neg notLater] at late
      rw [if_pos List.mem_cons_self]
      omega
    · rw [if_neg same] at early
      have member : kind ∈ other :: rest ↔ kind ∈ rest := by
        simp [Ne.symm same]
      simp only [member]
      omega

end InTurn

def creationOrder : List Kind := [.blockPool, .exporter, .service]

def deletionOrder : List Kind := [.service, .exporter, .blockPool]

theorem mem_creationOrder (kind : Kind) : kind ∈ creationOrder := by
  cases kind <;> decide

theorem mem_deletionOrder (kind : Kind) : kind ∈ deletionOrder := by
  cases kind <;> decide

/-- The courses of the passes over all resources of a cluster, which create them or delete them. -/
inductive Course (policy : Policy) (cluster : Cluster) :
    Bool → List Exchange → List Event → Except OperatorError RequeueHint → Prop
  | deletions {exchanges : List Exchange} {events : List Event}
      {result : Except OperatorError RequeueHint}
      (turns : InTurn (Kind.Deletion · cluster) deletionOrder exchanges events result) :
      Course policy cluster false exchanges events result
  | creations {exchanges : List Exchange} {events : List Event}
      {result : Except OperatorError RequeueHint}
      (turns : InTurn (Kind.Creation · policy cluster) creationOrder exchanges events result) :
      Course policy cluster true exchanges events result

theorem ensureDeleted_nfs (policy : Policy) (cluster : Cluster) :
    ensureDeleted (nfs policy) cluster =
      inOrder .done (deletionOrder.map fun kind => kind.ensureDeleted cluster) := rfl

theorem course_of_ensureDeleted
    (ended : (ensureDeleted (nfs policy) cluster).Ends exchanges events result) :
    Course policy cluster false exchanges events result := by
  rw [ensureDeleted_nfs] at ended
  exact .deletions (inTurn_of_ends (fun _ _ _ _ => Kind.deletion_of_ends)
    (fun _ _ _ _ => Kind.Deletion.hint_eq) deletionOrder ended)

theorem ensureCreated_of_disabled (disabled : cluster.nfsEnabled = false) :
    ensureCreated (nfs policy) cluster = ensureDeleted (nfs policy) cluster := by
  simp [ensureCreated, creationPlan, ensureDeleted, deletionPlan, nfs, Kind.manager,
    Kind.shouldExist, disabled]

theorem ensureCreated_of_enabled (enabled : cluster.nfsEnabled = true) :
    ensureCreated (nfs policy) cluster =
      inOrder .done (creationOrder.map fun kind => kind.ensureCreated policy cluster) := by
  simp [ensureCreated, creationPlan, creationOrder, nfs, Kind.manager, Kind.shouldExist, enabled]

theorem course_of_ensureCreated
    (ended : (ensureCreated (nfs policy) cluster).Ends exchanges events result) :
    Course policy cluster cluster.nfsEnabled exchanges events result := by
  cases enabled : cluster.nfsEnabled with
  | false =>
    rw [ensureCreated_of_disabled enabled] at ended
    exact course_of_ensureDeleted ended
  | true =>
    rw [ensureCreated_of_enabled enabled] at ended
    exact .creations (inTurn_of_ends (fun _ _ _ _ => Kind.creation_of_ends enabled)
      (fun _ _ _ _ => Kind.Creation.hint_eq) creationOrder ended)

theorem Course.hint_eq {creating : Bool} {hint : RequeueHint}
    (course : Course policy cluster creating exchanges events (.ok hint)) : hint = .done := by
  cases course with
  | deletions turns | creations turns => exact turns.hint_eq

theorem Course.about {creating : Bool}
    (course : Course policy cluster creating exchanges events result) :
    ∀ exchange ∈ exchanges, ∃ kind, exchange.About kind := by
  intro exchange member
  cases course with
  | deletions turns =>
    obtain ⟨kind, -, isAbout⟩ := turns.about (fun _ _ _ _ => Kind.Deletion.about) exchange member
    exact ⟨kind, isAbout⟩
  | creations turns =>
    obtain ⟨kind, -, isAbout⟩ := turns.about (fun _ _ _ _ => Kind.Creation.about) exchange member
    exact ⟨kind, isAbout⟩

theorem Course.countP_writes_le {creating : Bool}
    (course : Course policy cluster creating exchanges events result) (kind : Kind) :
    exchanges.countP (·.writes kind) ≤ 1 := by
  cases course with
  | deletions turns =>
    exact turns.countP_writes_le (fun _ _ _ _ => Kind.Deletion.about)
      (fun _ _ _ _ => Kind.Deletion.countP_writes_le) (by decide) kind
  | creations turns =>
    exact turns.countP_writes_le (fun _ _ _ _ => Kind.Creation.about)
      (fun _ _ _ _ => Kind.Creation.countP_writes_le) (by decide) kind

end Orchestrator

end CephExport
