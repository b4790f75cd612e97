import CephExport.Proofs.Pass.Course
import CephExport.Proofs.Store.Server
import CephExport.Reconcile.Cluster

/-!
All the courses that the pass over a storage cluster can take: it records a phase where that is
needed, passes over the resources, and, when the cluster is being deleted and all of them are gone,
releases it.
-/

set_option autoImplicit false
set_option relaxedAutoImplicit false

namespace CephExport

namespace Reconcile

/-- The courses of the recording of a phase, which is only made where it is needed. -/
inductive Announcement (key : ObjectKey) (phase : Phase) :
    Bool → List Exchange → Except OperatorError Unit → Prop
  | unneeded : Announcement key phase false [] (.ok ())
  | recorded : Announcement key phase true [⟨.setPhase key phase, .ok ()⟩] (.ok ())
  | failed (error : OperatorError) :
      Announcement key phase true [⟨.setPhase key phase, .error error⟩] (.error error)

section

variable (subject : Subject) (policy : Policy)

inductive Application : List Exchange → Except OperatorError Action → Prop
  | notBegun {opening : List Exchange} {error : OperatorError}
      (begun : Announcement subject.key .progressing subject.cluster.status.isNone opening
        (.error error)) :
      Application opening (.error error)
  | notMade {opening exchanges : List Exchange} {events : List Event} {error : OperatorError}
      (begun : Announcement subject.key .progressing subject.cluster.status.isNone opening (.ok ()))
      (made : Orchestrator.Course policy subject.cluster subject.cluster.nfsEnabled exchanges events
        (.error error)) :
      Application (opening ++ exchanges) (.error error)
  | notRecorded {opening exchanges closing : List Exchange} {events : List Event}
      {hint : RequeueHint} {error : OperatorError}
      (begun : Announcement subject.key .progressing subject.cluster.status.isNone opening (.ok ()))
      (made : Orchestrator.Course policy subject.cluster subject.cluster.nfsEnabled exchanges events
        (.ok hint))
      (closed : Announcement subject.key .ready (needsPhase subject.cluster.status .ready) closing
        (.error error)) :
      Application (opening ++ (exchanges ++ closing)) (.error error)
  | applied {opening exchanges closing : List Exchange} {events : List Event} {hint : RequeueHint}
      (begun : Announcement subject.key .progressing subject.cluster.status.isNone opening (.ok ()))
      (made : Orchestrator.Course policy subject.cluster subject.cluster.nfsEnabled exchanges events
        (.ok hint))
      (closed : Announcement subject.key .ready (needsPhase subject.cluster.status .ready) closing
        (.ok ())) :
      Application (opening ++ (exchanges ++ closing))
        (.ok (hint.toAction policy.settings.controller.requeueInterval))

inductive Cleaning : List Exchange → Except OperatorError Action → Prop
  | notBegun {opening : List Exchange} {error : OperatorError}
      (begun : Announcement subject.key .deleting (needsPhase subject.cluster.status .deleting)
        opening (.error error)) :
      Cleaning opening (.error error)
  | notRemoved {opening exchanges : List Exchange} {events : List Event} {error : OperatorError}
      (begun : Announcement subject.key .deleting (needsPhase subject.cluster.status .deleting)
        opening (.ok ()))
      (removed : Orchestrator.Course policy subject.cluster false exchanges events
        (.error error)) :
      Cleaning (opening ++ exchanges) (.error error)
  | cleaned {opening exchanges : List Exchange} {events : List Event} {hint : RequeueHint}
      (begun : Announcement subject.key .deleting (needsPhase subject.cluster.status .deleting)
        opening (.ok ()))
      (removed : Orchestrator.Course policy subject.cluster false exchanges events (.ok hint)) :
      Cleaning (opening ++ exchanges) (.ok .awaitChange)

end

def finalizerFailure (what : String) (error : OperatorError) : OperatorError :=
  .finalizer ("failed to " ++ what ++ " finalizer: " ++ exchangeText error)

/-- The courses of the pass over a cluster. -/
inductive Course (served : V1alpha1.Cluster) (settings : Option Settings) :
    List Exchange → Except OperatorError Action → Prop
  | unplaced (missing : served.metadata.namespace = none) :
      Course served settings []
        (.error (.missingKey "Expected StorageCluster to be namespaced via metadata.namespace"))
  | unsettled (missing : settings = none) : Course served settings [] (.error .missingState)
  | released (absent : clusterFinalizer ∉ served.finalizers)
      (marked : served.metadata.isDeleting = true) : Course served settings [] (.ok .awaitChange)
  | unnamed (missing : served.metadata.name = none) :
      Course served settings [] (.error (.finalizer "object has no name"))
  | notAdopted {key : ObjectKey} (error : OperatorError)
      (absent : clusterFinalizer ∉ served.finalizers) :
      Course served settings [⟨.addFinalizer key served.finalizers, .error error⟩]
        (.error (finalizerFailure "add" error))
  | adopted {key : ObjectKey} (absent : clusterFinalizer ∉ served.finalizers) :
      Course served settings [⟨.addFinalizer key served.finalizers, .ok ()⟩] (.ok .awaitChange)
  | applied {«namespace» : String} {known : Settings} {exchanges : List Exchange}
      {result : Except OperatorError Action} (space : served.metadata.namespace = some «namespace»)
      (set : settings = some known) (carried : clusterFinalizer ∈ served.finalizers)
      (unmarked : served.metadata.isDeleting = false)
      (application : Application ⟨served, «namespace»⟩ ⟨V1alpha1.Cluster.scheme, known⟩ exchanges
        result) :
      Course served settings exchanges result
  | notCleaned {«namespace» : String} {known : Settings} {exchanges : List Exchange}
      {error : OperatorError} (space : served.metadata.namespace = some «namespace»)
      (set : settings = some known) (carried : clusterFinalizer ∈ served.finalizers)
      (marked : served.metadata.isDeleting = true)
      (cleaning : Cleaning ⟨served, «namespace»⟩ ⟨V1alpha1.Cluster.scheme, known⟩ exchanges
        (.error error)) :
      Course served settings exchanges (.error error)
  | notReleased {«namespace» : String} {known : Settings} {exchanges : List Exchange}
      {action : Action} {key : ObjectKey} {position : Nat} (error : OperatorError)
      (space : served.metadata.namespace = some «namespace») (set : settings = some known)
      (carried : clusterFinalizer ∈ served.finalizers)
      (marked : served.metadata.isDeleting = true)
      (cleaning : Cleaning ⟨served, «namespace»⟩ ⟨V1alpha1.Cluster.scheme, known⟩ exchanges
        (.ok action)) :
      Course served settings (exchanges ++ [⟨.removeFinalizer key position, .error error⟩])
        (.error (finalizerFailure "remove" error))
  | cleaned {«namespace» : String} {known : Settings} {exchanges : List Exchange}
      {action : Action} {key : ObjectKey} {position : Nat}
      (space : served.metadata.namespace = some «namespace») (set : settings = some known)
      (carried : clusterFinalizer ∈ served.finalizers)
      (marked : served.metadata.isDeleting = true)
      (cleaning : Cleaning ⟨served, «namespace»⟩ ⟨V1alpha1.Cluster.scheme, known⟩ exchanges
        (.ok action)) :
      Course served settings (exchanges ++ [⟨.removeFinalizer key position, .ok ()⟩]) (.ok action)

variable {subject : Subject} {policy : Policy}
  {exchanges : List Exchange} {events : List Event} {result : Except OperatorError Action}

private theorem announcement_of_ends {key : ObjectKey} {phase : Phase} {needed : Bool}
    {first : Pass Unit} {next : Unit → Pass Action}
    (records : ∀ exchanges events result, first.Ends exchanges events result →
      ∃ answer, exchanges = [⟨.setPhase key phase, answer⟩] ∧ result = answer)
    (ended : (if needed = true then first >>= next else next ()).Ends exchanges events result) :
    (∃ error, Announcement key phase needed exchanges (.error error) ∧ result = .error error) ∨
      ∃ opening rest later, Announcement key phase needed opening (.ok ()) ∧
        (next ()).Ends rest later result ∧ exchanges = opening ++ rest := by
  cases needed with
  | false => exact .inr ⟨[], exchanges, events, .unneeded, ended, rfl⟩
  | true =>
    rw [if_pos rfl, Pass.ends_bind_iff] at ended
    rcases ended with ⟨error, failed, rfl⟩ | ⟨_, opening, rest, _, later, begun, went, rfl, rfl⟩
    · obtain ⟨_, rfl, rfl⟩ := records _ _ _ failed
      exact .inl ⟨error, .failed error, rfl⟩
    · obtain ⟨_, rfl, rfl⟩ := records _ _ _ begun
      exact .inr ⟨_, rest, later, .recorded, went, rfl⟩

private theorem records_perform {key : ObjectKey} {phase : Phase} (exchanges : List Exchange)
    (events : List Event) (result : Except OperatorError Unit)
    (ended : (Pass.perform (.setPhase key phase)).Ends exchanges events result) :
    ∃ answer, exchanges = [⟨.setPhase key phase, answer⟩] ∧ result = answer := by
  obtain ⟨answer, _, rfl, last⟩ := Pass.ends_ask_iff.1 ended
  obtain ⟨rfl, -, same⟩ := Pass.ends_done_iff.1 last
  exact ⟨answer, rfl, same⟩

private theorem records_announcePhase {phase : Phase} (exchanges : List Exchange)
    (events : List Event) (result : Except OperatorError Unit)
    (ended : (announcePhase subject phase).Ends exchanges events result) :
    ∃ answer, exchanges = [⟨.setPhase subject.key phase, answer⟩] ∧ result = answer := by
  obtain ⟨_, rfl, recorded⟩ := Pass.ends_log_bind_iff.1 ended
  exact records_perform _ _ _ recorded

theorem application_of_ends
    (ended : (apply subject policy.settings (Orchestrator.nfs policy)).Ends exchanges events
      result) :
    Application subject policy exchanges result := by
  rw [apply] at ended
  rcases announcement_of_ends records_announcePhase ended with
    ⟨error, begun, rfl⟩ | ⟨opening, rest, _, begun, went, rfl⟩
  · exact .notBegun begun
  · rcases Pass.ends_bind_iff.1 went with
      ⟨error, made, rfl⟩ | ⟨hint, _, _, _, _, made, after, rfl, -⟩
    · exact .notMade begun (Orchestrator.course_of_ensureCreated made)
    · have made := Orchestrator.course_of_ensureCreated made
      rcases announcement_of_ends records_announcePhase after with
        ⟨error, closed, rfl⟩ | ⟨closing, _, _, closed, last, rfl⟩
      · exact .notRecorded begun made closed
      · obtain ⟨_, rfl, reported⟩ := Pass.ends_log_bind_iff.1 last
        obtain ⟨rfl, rfl, rfl⟩ := Pass.ends_pure_iff.1 reported
        rw [List.append_nil]
        exact .applied begun made closed

theorem cleaning_of_ends
    (ended : (cleanUp subject (Orchestrator.nfs policy)).Ends exchanges events result) :
    Cleaning subject policy exchanges result := by
  rw [cleanUp] at ended
  rcases announcement_of_ends records_perform ended with
    ⟨error, begun, rfl⟩ | ⟨opening, rest, _, begun, went, rfl⟩
  · exact .notBegun begun
  · rcases Pass.ends_bind_iff.1 went with
      ⟨error, removed, rfl⟩ | ⟨hint, _, _, _, _, removed, after, rfl, -⟩
    · exact .notRemoved begun (Orchestrator.course_of_ensureDeleted removed)
    · obtain ⟨_, rfl, last⟩ := Pass.ends_log_bind_iff.1 after
      obtain ⟨rfl, rfl, rfl⟩ := Pass.ends_pure_iff.1 last
      rw [List.append_nil]
      exact .cleaned begun (Orchestrator.course_of_ensureDeleted removed)

private theorem ends_patchFinalizers_bind {what : String} {call : Call} {next : Unit → Pass Action}
    (ended : (patchFinalizers what call >>= next).Ends exchanges events result) :
    (∃ error, exchanges = [⟨call, .error error⟩] ∧ result = .error (finalizerFailure what error)) ∨
      ∃ reply rest, exchanges = ⟨call, .ok reply⟩ :: rest ∧ (next ()).Ends rest events result := by
  rcases Pass.ends_bind_iff.1 ended with
    ⟨error, failed, rfl⟩ | ⟨_, _, _, _, _, patched, went, rfl, rfl⟩
  · obtain ⟨answer | reply, _, rfl, last⟩ := Pass.ends_attempt_bind_iff.1 failed
    · obtain ⟨rfl, rfl, same⟩ := Pass.ends_fail_iff.1 last
      obtain rfl := Except.error.inj same
      exact .inl ⟨answer, rfl, rfl⟩
    · obtain ⟨-, -, ⟨⟩⟩ := Pass.ends_pure_iff.1 last
  · obtain ⟨answer | reply, _, rfl, last⟩ := Pass.ends_attempt_bind_iff.1 patched
    · obtain ⟨-, -, ⟨⟩⟩ := Pass.ends_fail_iff.1 last
    · obtain ⟨rfl, rfl, -⟩ := Pass.ends_pure_iff.1 last
      exact .inr ⟨reply, _, rfl, went⟩

private theorem ends_finalizerKey_bind {next : ObjectKey → Pass Action}
    (ended : (finalizerKey subject >>= next).Ends exchanges events result) :
    (subject.served.metadata.name = none ∧ exchanges = [] ∧
      result = .error (.finalizer "object has no name")) ∨
    ∃ key, (next key).Ends exchanges events result := by
  rw [finalizerKey] at ended
  cases named : subject.served.metadata.name with
  | none =>
    rw [named] at ended
    obtain ⟨rfl, -, rfl⟩ := Pass.ends_fail_iff.1 ended
    exact .inl ⟨rfl, rfl, rfl⟩
  | some name =>
    rw [named] at ended
    exact .inr ⟨_, ended⟩

theorem course_of_ends {served : V1alpha1.Cluster} {settings : Option Settings}
    (ended : (cluster served settings).Ends exchanges events result) :
    Course served settings exchanges result := by
  unfold cluster at ended
  cases space : served.metadata.namespace with
  | none =>
    simp only [space] at ended
    obtain ⟨rfl, rfl, rfl⟩ := Pass.ends_fail_iff.1 ended
    exact .unplaced space
  | some «namespace» =>
    cases settings with
    | none =>
      simp only [space] at ended
      obtain ⟨rfl, rfl, rfl⟩ := Pass.ends_fail_iff.1 ended
      exact .unsettled rfl
    | some known =>
      simp only [space, underFinalizer] at ended
      have carries : (served.metadata.finalizers.getD []).findIdx? (· == clusterFinalizer) ≠ none ↔
          clusterFinalizer ∈ served.finalizers := by
        simp [V1alpha1.Cluster.finalizers]
      cases found : (served.metadata.finalizers.getD []).findIdx? (· == clusterFinalizer) with
      | none =>
        have absent : clusterFinalizer ∉ served.finalizers := fun carried => carries.2 carried found
        cases marked : served.metadata.isDeleting with
        | true =>
          simp only [found, marked] at ended
          obtain ⟨rfl, rfl, rfl⟩ := Pass.ends_pure_iff.1 ended
          exact .released absent marked
        | false =>
          simp only [found, marked] at ended
          rcases ends_finalizerKey_bind ended with ⟨unnamed, rfl, rfl⟩ | ⟨key, went⟩
          · exact .unnamed unnamed
          · rcases ends_patchFinalizers_bind went with ⟨error, rfl, rfl⟩ | ⟨_, _, rfl, last⟩
            · exact .notAdopted error absent
            · obtain ⟨rfl, rfl, rfl⟩ := Pass.ends_pure_iff.1 last
              exact .adopted absent
      | some position =>
        have carried : clusterFinalizer ∈ served.finalizers := carries.1 (by simp [found])
        cases marked : served.metadata.isDeleting with
        | false =>
          simp only [found, marked] at ended
          exact .applied space rfl carried marked (application_of_ends ended)
        | true =>
          simp only [found, marked] at ended
          rcases ends_finalizerKey_bind ended with ⟨unnamed, rfl, rfl⟩ | ⟨key, went⟩
          · exact .unnamed unnamed
          · rcases Pass.ends_bind_iff.1 went with
              ⟨error, failed, rfl⟩ | ⟨action, _, _, _, _, cleaned, after, rfl, rfl⟩
            · exact .notCleaned space rfl carried marked (cleaning_of_ends failed)
            · have cleaning := cleaning_of_ends cleaned
              rcases ends_patchFinalizers_bind after with ⟨error, rfl, rfl⟩ | ⟨_, _, rfl, last⟩
              · exact .notReleased error space rfl carried marked cleaning
              · obtain ⟨rfl, rfl, rfl⟩ := Pass.ends_pure_iff.1 last
                exact .cleaned space rfl carried marked cleaning

theorem Announcement.unmanaged {key : ObjectKey} {phase : Phase} {needed : Bool}
    {result : Except OperatorError Unit}
    (announcement : Announcement key phase needed exchanges result) :
    ∀ exchange ∈ exchanges, exchange.call.place? = none := by
  cases announcement <;> simp [Call.place?]

/-- The exchanges of a pass that are about resources, if there are any, stand together. -/
inductive Outline (policy : Policy) (cluster : Cluster) : List Exchange → Prop
  | apart {exchanges : List Exchange}
      (unmanaged : ∀ exchange ∈ exchanges, exchange.call.place? = none) :
      Outline policy cluster exchanges
  | around {opening middle closing : List Exchange} {creating : Bool} {events : List Event}
      {result : Except OperatorError RequeueHint}
      (before : ∀ exchange ∈ opening, exchange.call.place? = none)
      (course : Orchestrator.Course policy cluster creating middle events result)
      (after : ∀ exchange ∈ closing, exchange.call.place? = none) :
      Outline policy cluster (opening ++ (middle ++ closing))

theorem Outline.begun {cluster : Cluster} {opening middle : List Exchange} {creating : Bool}
    {result : Except OperatorError RequeueHint}
    (before : ∀ exchange ∈ opening, exchange.call.place? = none)
    (course : Orchestrator.Course policy cluster creating middle events result) :
    Outline policy cluster (opening ++ middle) := by
  have outline := Outline.around before course fun _ member => absurd member List.not_mem_nil
  rwa [List.append_nil] at outline

theorem Outline.snoc {cluster : Cluster} {exchange : Exchange}
    (outline : Outline policy cluster exchanges) (unmanaged : exchange.call.place? = none) :
    Outline policy cluster (exchanges ++ [exchange]) := by
  cases outline with
  | apart before =>
    exact .apart (List.forall_mem_append.2 ⟨before, List.forall_mem_singleton.2 unmanaged⟩)
  | around before course after =>
    rw [List.append_assoc, List.append_assoc]
    exact .around before course
      (List.forall_mem_append.2 ⟨after, List.forall_mem_singleton.2 unmanaged⟩)

theorem Outline.countP_writes_le {cluster : Cluster} (outline : Outline policy cluster exchanges)
    (kind : Kind) : exchanges.countP (·.writes kind) ≤ 1 := by
  have unwritten : ∀ apart : List Exchange, (∀ exchange ∈ apart, exchange.call.place? = none) →
      apart.countP (·.writes kind) = 0 := by
    intro apart unmanaged
    rw [List.countP_eq_zero]
    intro exchange member writes
    obtain ⟨_, concerns⟩ := Exchange.about_of_writes writes
    exact absurd (concerns.symm.trans (unmanaged exchange member)) (by simp)
  cases outline with
  | apart unmanaged => rw [unwritten _ unmanaged]; exact Nat.zero_le 1
  | around before course after =>
    rw [List.countP_append, List.countP_append, unwritten _ before, unwritten _ after, Nat.zero_add]
    exact course.countP_writes_le kind

theorem Application.outline (application : Application subject policy exchanges result) :
    Outline policy subject.cluster exchanges := by
  cases application with
  | notBegun begun => exact .apart begun.unmanaged
  | notMade begun made => exact .begun begun.unmanaged made
  | notRecorded begun made closed | applied begun made closed =>
    exact .around begun.unmanaged made closed.unmanaged

theorem Cleaning.outline (cleaning : Cleaning subject policy exchanges result) :
    Outline policy subject.cluster exchanges := by
  cases cleaning with
  | notBegun begun => exact .apart begun.unmanaged
  | notRemoved begun removed | cleaned begun removed => exact .begun begun.unmanaged removed

theorem Course.outline {served : V1alpha1.Cluster} {settings : Option Settings}
    (course : Course served settings exchanges result) :
    ∃ policy, Outline policy served.toCluster exchanges := by
  cases course with
  | unplaced | unsettled | released | unnamed =>
    exact ⟨⟨V1alpha1.Cluster.scheme, {}⟩, .apart fun _ member => absurd member List.not_mem_nil⟩
  | notAdopted | adopted =>
    exact ⟨⟨V1alpha1.Cluster.scheme, {}⟩, .apart (List.forall_mem_singleton.2 rfl)⟩
  | applied _ _ _ _ application => exact ⟨_, application.outline⟩
  | notCleaned _ _ _ _ cleaning => exact ⟨_, cleaning.outline⟩
  | notReleased _ _ _ _ _ cleaning | cleaned _ _ _ _ cleaning =>
    exact ⟨_, cleaning.outline.snoc rfl⟩

end Reconcile

end CephExport
