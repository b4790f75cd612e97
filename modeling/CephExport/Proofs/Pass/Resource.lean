import CephExport.Proofs.Pass.Discipline
import CephExport.Proofs.Resource.Parent

/-!
What the passes over one resource of a cluster call for, in whatever way they are answered: a
deletion only follows a reading of an unmarked object, a replacement only a reading of an unmarked
one that differs, a creation only a reading of nothing. Each pass is described once by what a rule
and a goal must grant for the pass to obey them.
-/

set_option autoImplicit false
set_option relaxedAutoImplicit false

namespace CephExport

namespace Kind

variable {kind : Kind} {key : ObjectKey} {rule : Memory → Call → Prop}
  {goal : Memory → Except OperatorError RequeueHint → Prop} {memory : Memory}

theorem obeys_confirmDeleted (read : ∀ memory, rule memory (.get kind key))
    (gone : goal (memory.note ⟨kind, key⟩ .absent) (.ok .done))
    (failed : ∀ standing error, goal (memory.note ⟨kind, key⟩ standing) (.error error)) :
    (kind.confirmDeleted key).Obeys rule goal memory := by
  rw [confirmDeleted, Pass.obeys_get_bind]
  refine ⟨read memory, failed .uncertain, ?_, ?_⟩
  · simpa using gone
  · intro live
    simpa using failed (.found live) _

theorem obeys_requestDeletion {goal : Memory → Except OperatorError Unit → Prop}
    (permitted : rule memory (.delete kind key))
    (tried : ∀ result, goal (memory.note ⟨kind, key⟩ .uncertain) result) :
    (kind.requestDeletion key).Obeys rule goal memory := by
  rw [requestDeletion, Pass.obeys_bind, Pass.obeys_log, Pass.andThen_ok, Pass.obeys_bind,
    Pass.obeys_attempt]
  refine ⟨permitted, fun answer => ?_⟩
  cases answer with
  | ok _ => exact tried (.ok ())
  | error error =>
    rw [Pass.andThen_ok]
    by_cases missing : error.isNotFound = true
    · simp only [if_pos missing]
      exact tried (.ok ())
    · simp only [if_neg missing]
      exact tried (.error error)

theorem obeys_deleteAt (read : ∀ memory, rule memory (.get kind key))
    (delete : ∀ live : Managed kind, live.metadata.isDeleting = false →
      rule (memory.note ⟨kind, key⟩ (.found live)) (.delete kind key))
    (gone : goal (memory.note ⟨kind, key⟩ .absent) (.ok .done))
    (failed : ∀ standing error, goal (memory.note ⟨kind, key⟩ standing) (.error error)) :
    (kind.deleteAt key).Obeys rule goal memory := by
  have confirmed : ∀ standing,
      (kind.confirmDeleted key).Obeys rule goal (memory.note ⟨kind, key⟩ standing) := by
    intro standing
    apply obeys_confirmDeleted read
    · rwa [Memory.note_note]
    · intro later error
      rw [Memory.note_note]
      exact failed later error
  rw [deleteAt, Pass.obeys_get_bind]
  refine ⟨read memory, failed .uncertain, gone, fun live => ?_⟩
  by_cases marked : live.metadata.isDeleting = true
  · simp only [if_pos marked]
    exact confirmed (.found live)
  · simp only [if_neg marked]
    rw [Pass.obeys_bind]
    apply obeys_requestDeletion (delete live (Bool.eq_false_iff.2 marked))
    intro result
    rw [Memory.note_note]
    cases result with
    | ok _ => exact confirmed .uncertain
    | error error => exact failed .uncertain error

theorem obeys_update {live desired : Managed kind}
    (replace : live.drifted desired = true → rule memory (.replace kind key (live.merge desired)))
    (inSync : live.drifted desired = false → goal memory (.ok .done))
    (written : goal (memory.note ⟨kind, key⟩ .written) (.ok .done))
    (failed : ∀ error, goal (memory.note ⟨kind, key⟩ .uncertain) (.error error)) :
    (kind.update key live desired).Obeys rule goal memory := by
  rw [update, Pass.obeys_bind, Pass.obeys_logAll, Pass.andThen_ok]
  by_cases drifted : live.drifted desired = true
  · rw [if_pos drifted, Pass.obeys_bind, Pass.obeys_log, Pass.andThen_ok, Pass.obeys_replace_bind]
    exact ⟨replace drifted, failed, fun _ => written⟩
  · rw [if_neg drifted, Pass.obeys_bind, Pass.obeys_log, Pass.andThen_ok, Pass.obeys_pure]
    exact inSync (Bool.eq_false_iff.2 drifted)

theorem obeys_createAt {desired : Managed kind} (named : desired.metadata.displayName = key.name)
    (read : rule memory (.get kind key))
    (create : rule (memory.note ⟨kind, key⟩ .absent) (.create kind key.namespace desired))
    (replace : ∀ live : Managed kind, live.metadata.isDeleting = false →
      live.drifted desired = true →
      rule (memory.note ⟨kind, key⟩ (.found live)) (.replace kind key (live.merge desired)))
    (inSync : ∀ live : Managed kind, live.metadata.isDeleting = false →
      live.drifted desired = false →
      goal (memory.note ⟨kind, key⟩ (.found live)) (.ok .done))
    (written : goal (memory.note ⟨kind, key⟩ .written) (.ok .done))
    (failed : ∀ error, goal (memory.note ⟨kind, key⟩ .uncertain) (.error error))
    (pending : ∀ live : Managed kind, live.metadata.isDeleting = true →
      goal (memory.note ⟨kind, key⟩ (.found live)) (.error (.pendingDeletion kind.name key.name))) :
    (kind.createAt key desired).Obeys rule goal memory := by
  rw [createAt, Pass.obeys_get_bind]
  refine ⟨read, failed, ?_, fun live => ?_⟩
  · rw [Pass.obeys_bind, Pass.obeys_log, Pass.andThen_ok, Pass.obeys_create_bind, named]
    simp only [Memory.note_note]
    exact ⟨create, failed, fun _ => written⟩
  · by_cases marked : live.metadata.isDeleting = true
    · simp only [if_pos marked]
      exact pending live marked
    · have unmarked := Bool.eq_false_iff.2 marked
      simp only [if_neg marked]
      apply obeys_update (replace live unmarked) (inSync live unmarked)
      · rwa [Memory.note_note]
      · intro error
        rw [Memory.note_note]
        exact failed error

variable {cluster : Cluster} {policy : Policy} {parent : ObjectKey}

theorem ensureDeleted_of_isAt (placed : cluster.IsAt parent) :
    kind.ensureDeleted cluster = kind.deleteAt (kind.home parent) := by
  rw [ensureDeleted, keyFor_of_isAt kind placed]
  rfl

theorem ensureDeleted_cases (kind : Kind) (cluster : Cluster) :
    (∃ error, kind.ensureDeleted cluster = Pass.fail error) ∨
      ∃ parent, cluster.IsAt parent ∧
        kind.ensureDeleted cluster = kind.deleteAt (kind.home parent) := by
  cases key : kind.keyFor cluster with
  | error error =>
    left
    exact ⟨error, by rw [ensureDeleted, key]; rfl⟩
  | ok home =>
    obtain ⟨parent, placed, -⟩ := exists_parent_of_keyFor key
    exact .inr ⟨parent, placed, ensureDeleted_of_isAt placed⟩

theorem ensureCreated_of_unbuilt {error : OperatorError} (wanted : kind.shouldExist cluster = true)
    (unbuilt : kind.desired cluster policy.scheme policy.settings = .error error) :
    kind.ensureCreated policy cluster = Pass.fail error := by
  rw [ensureCreated, if_pos wanted, unbuilt]
  rfl

theorem ensureCreated_of_built {desired : Managed kind} (wanted : kind.shouldExist cluster = true)
    (placed : cluster.IsAt parent)
    (built : kind.desired cluster policy.scheme policy.settings = .ok desired) :
    kind.ensureCreated policy cluster = kind.createAt (kind.home parent) desired := by
  have space : cluster.namespaceOf = .ok parent.namespace := by
    rw [Cluster.namespaceOf, placed.namespace]
  have named : desired.metadata.displayName = (kind.home parent).name := by
    rw [displayName_of_desired placed built]
  rw [ensureCreated, if_pos wanted, built, space]
  change kind.createAt ⟨parent.namespace, desired.metadata.displayName⟩ desired = _
  rw [named]
  rfl

theorem ensureCreated_cases (kind : Kind) (policy : Policy)
    (wanted : kind.shouldExist cluster = true) :
    (∃ error, kind.desired cluster policy.scheme policy.settings = .error error ∧
      kind.ensureCreated policy cluster = Pass.fail error) ∨
    ∃ parent desired, cluster.IsAt parent ∧
      kind.desired cluster policy.scheme policy.settings = .ok desired ∧
      kind.ensureCreated policy cluster = kind.createAt (kind.home parent) desired := by
  cases built : kind.desired cluster policy.scheme policy.settings with
  | error error => exact .inl ⟨error, rfl, ensureCreated_of_unbuilt wanted built⟩
  | ok desired =>
    obtain ⟨parent, -, placed, -⟩ := exists_parent_of_desired built
    exact .inr ⟨parent, desired, placed, rfl, ensureCreated_of_built wanted placed built⟩

theorem ensureCreated_of_unwanted (unwanted : kind.shouldExist cluster = false) :
    kind.ensureCreated policy cluster = kind.ensureDeleted cluster := by
  rw [ensureCreated, unwanted]
  rfl

end Kind

end CephExport
