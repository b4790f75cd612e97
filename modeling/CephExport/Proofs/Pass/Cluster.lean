import CephExport.Reconcile.Cluster
import CephExport.Proofs.Pass.Orchestrator

/-!
What the pass over a storage cluster calls for: phases are recorded at any time, resources are only
made while the finalizer is there, and it is only removed after a clean-up that ended well.
-/

set_option autoImplicit false
set_option relaxedAutoImplicit false

namespace CephExport

namespace Pass

def OnSuccess {α : Type} (known : Memory → Prop) : Memory → Except OperatorError α → Prop
  | memory, .ok _ => known memory
  | _, .error _ => True

end Pass

namespace Reconcile

variable {rule : Memory → Call → Prop} {memory : Memory} {subject : Subject} {gone : Memory → Prop}

theorem obeys_announcePhase {phase : Phase} {goal : Memory → Except OperatorError Unit → Prop}
    (permitted : rule memory (.setPhase subject.key phase))
    (reached : ∀ result, goal memory result) :
    (announcePhase subject phase).Obeys rule goal memory := by
  rw [announcePhase, Pass.obeys_bind, Pass.obeys_log, Pass.andThen_ok]
  exact ⟨permitted, reached⟩

private theorem obeys_where_needed {α : Type} {needed : Bool} {first : Pass Unit} {rest : Pass α}
    {goal : Memory → Except OperatorError α → Prop}
    (begun : first.Obeys rule (Pass.andThen rule goal fun _ => rest) memory)
    (next : rest.Obeys rule goal memory) :
    (if needed = true then first >>= fun _ => rest else rest).Obeys rule goal memory := by
  cases needed with
  | false => exact next
  | true =>
    rw [if_pos rfl, Pass.obeys_bind]
    exact begun

private theorem andThen_of_next {α : Type} {rest : Pass α}
    {goal : Memory → Except OperatorError α → Prop} (failed : ∀ error, goal memory (.error error))
    (next : rest.Obeys rule goal memory) (result : Except OperatorError Unit) :
    Pass.andThen rule goal (fun _ => rest) memory result := by
  cases result with
  | error error => exact failed error
  | ok _ => exact next

theorem obeys_apply {settings : Settings} {managers : List ResourceManager}
    (phases : ∀ memory phase, rule memory (.setPhase subject.key phase))
    (resources : ∀ memory,
      (Orchestrator.ensureCreated managers subject.cluster).Obeys rule (fun _ _ => True) memory) :
    (apply subject settings managers).Obeys rule (fun _ _ => True) memory := by
  have ready : ∀ memory (rest : Pass Action), rest.Obeys rule (fun _ _ => True) memory →
      (if needsPhase subject.cluster.status .ready = true then
        announcePhase subject .ready >>= fun _ => rest
      else rest).Obeys rule (fun _ _ => True) memory := by
    intro memory rest next
    apply obeys_where_needed _ next
    apply obeys_announcePhase (phases memory .ready)
    exact andThen_of_next (fun _ => trivial) next
  have created : ∀ memory (next : RequeueHint → Pass Action),
      (∀ memory hint, (next hint).Obeys rule (fun _ _ => True) memory) →
      (Orchestrator.ensureCreated managers subject.cluster >>= next).Obeys rule
        (fun _ _ => True) memory := by
    intro memory next later
    rw [Pass.obeys_bind]
    refine (resources memory).mono (fun _ _ permitted => permitted) fun memory result _ => ?_
    cases result with
    | error _ => trivial
    | ok hint => exact later memory hint
  have resourcesMade := created memory _ fun memory hint => ready memory
    (Pass.log (.reconciled subject.name subject.namespace subject.cluster.nfsEnabled) >>= fun _ =>
      pure (hint.toAction settings.controller.requeueInterval)) trivial
  apply obeys_where_needed _ resourcesMade
  apply obeys_announcePhase (phases memory .progressing)
  exact andThen_of_next (fun _ => trivial) resourcesMade

theorem obeys_cleanUp {managers : List ResourceManager}
    (phase : rule memory (.setPhase subject.key .deleting))
    (resources : (Orchestrator.ensureDeleted managers subject.cluster).Obeys rule
      (Pass.OnSuccess gone) memory) :
    (cleanUp subject managers).Obeys rule (Pass.OnSuccess gone) memory := by
  have removed : (Orchestrator.ensureDeleted managers subject.cluster >>= fun _ =>
      Pass.log (.cleanedUp subject.name subject.namespace) >>= fun _ =>
        pure Action.awaitChange).Obeys rule (Pass.OnSuccess gone) memory := by
    rw [Pass.obeys_bind]
    refine resources.mono (fun _ _ permitted => permitted) fun memory result known => ?_
    cases result with
    | error _ => trivial
    | ok _ => exact known
  apply obeys_where_needed _ removed
  exact ⟨phase, andThen_of_next (fun _ => trivial) removed⟩

theorem obeys_patchFinalizers {what : String} {call : Call}
    {goal : Memory → Except OperatorError Unit → Prop} (permitted : rule memory call)
    (reached : ∀ answer result, goal (memory.learn call answer) result) :
    (patchFinalizers what call).Obeys rule goal memory := by
  rw [patchFinalizers, Pass.obeys_bind, Pass.obeys_attempt]
  refine ⟨permitted, fun answer => ?_⟩
  cases answer with
  | ok _ => exact reached _ _
  | error _ => exact reached _ _

private theorem obeys_finalizerKey_bind {next : ObjectKey → Pass Action}
    (named : ∀ key, (next key).Obeys rule (fun _ _ => True) memory) :
    (finalizerKey subject >>= next).Obeys rule (fun _ _ => True) memory := by
  rw [Pass.obeys_bind, finalizerKey]
  cases subject.served.metadata.name with
  | none => trivial
  | some name => exact named ⟨subject.namespace, name⟩

variable (gone) in
/-- Resources are only made under the finalizer of a cluster that is not being deleted, and the
finalizer is only removed once they are gone. -/
theorem obeys_underFinalizer {applied cleanedUp : Pass Action}
    (whileApplied : clusterFinalizer ∈ subject.served.metadata.finalizers.getD [] →
      subject.served.metadata.isDeleting = false → applied.Obeys rule (fun _ _ => True) memory)
    (whileCleanedUp : subject.served.metadata.isDeleting = true →
      cleanedUp.Obeys rule (Pass.OnSuccess gone) memory)
    (add : ∀ key present, rule memory (.addFinalizer key present))
    (remove : subject.served.metadata.isDeleting = true → ∀ memory key position, gone memory →
      rule memory (.removeFinalizer key position)) :
    (underFinalizer subject applied cleanedUp).Obeys rule (fun _ _ => True) memory := by
  rw [underFinalizer]
  cases found : (subject.served.metadata.finalizers.getD []).findIdx? (· == clusterFinalizer) with
  | none =>
    cases deleting : subject.served.metadata.isDeleting with
    | true => trivial
    | false =>
      apply obeys_finalizerKey_bind
      intro key
      rw [Pass.obeys_bind]
      apply obeys_patchFinalizers (add key _)
      intro answer result
      cases result <;> trivial
  | some position =>
    cases deleting : subject.served.metadata.isDeleting with
    | true =>
      apply obeys_finalizerKey_bind
      intro key
      rw [Pass.obeys_bind]
      have cleaning := whileCleanedUp deleting
      refine cleaning.mono (fun _ _ permitted => permitted) fun memory result known => ?_
      cases result with
      | error _ => trivial
      | ok action =>
        rw [Pass.andThen_ok, Pass.obeys_bind]
        apply obeys_patchFinalizers (remove deleting memory key position known)
        intro answer result
        cases result <;> trivial
    | false =>
      refine whileApplied ?_ deleting
      obtain ⟨bound, here, -⟩ := List.findIdx?_eq_some_iff_getElem.1 found
      rw [beq_iff_eq] at here
      exact here ▸ List.getElem_mem bound

end Reconcile

end CephExport
