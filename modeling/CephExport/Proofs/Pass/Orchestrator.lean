import CephExport.Reconcile.Orchestrator
import CephExport.Proofs.Pass.Resource

/-!
What the passes over all resources of a cluster call for: each resource is deleted only once those
that come after it were read absent, and created only once those before it were read as they should
be or were written.
-/

set_option autoImplicit false
set_option relaxedAutoImplicit false

namespace CephExport

/-- An object that a pass left as it is wanted: it did not differ when it was read unmarked, or the
pass wrote it. -/
inductive Standing.InLine {kind : Kind} (desired : Managed kind) : Standing kind → Prop
  | found {live : Managed kind} (unmarked : live.metadata.isDeleting = false)
      (same : live.drifted desired = false) : InLine desired (found live)
  | written : InLine desired written

theorem Standing.InLine.isLive {kind : Kind} {desired : Managed kind} {standing : Standing kind}
    (h : standing.InLine desired) : standing.IsLive := by
  cases h with
  | found unmarked _ => exact .found unmarked
  | written => exact .written

namespace Orchestrator

def Settled (policy : Policy) (cluster : Cluster) (parent : ObjectKey) (memory : Memory)
    (kind : Kind) : Prop :=
  ∃ desired, kind.desired cluster policy.scheme policy.settings = .ok desired ∧
    (memory (kind.place parent)).InLine desired

/-- What a rule and a goal must grant to the passes that remove all resources of a parent. -/
structure GrantsDeletion (parent : ObjectKey) (rule : Memory → Call → Prop)
    (goal : Memory → Except OperatorError RequeueHint → Prop) : Prop where
  read : ∀ memory (kind : Kind), rule memory (.get kind (kind.home parent))
  /-- All resources that come later were read absent. -/
  delete : ∀ memory (kind : Kind),
    (∀ later : Kind, kind.rank < later.rank → memory (later.place parent) = .absent) →
    rule memory (.delete kind (kind.home parent))
  gone : ∀ memory : Memory, (∀ kind : Kind, memory (kind.place parent) = .absent) →
    goal memory (.ok .done)
  failed : ∀ memory error, goal memory (.error error)

/-- What a rule and a goal must grant to the passes that create all resources of a parent. -/
structure GrantsCreation (policy : Policy) (cluster : Cluster) (parent : ObjectKey)
    (rule : Memory → Call → Prop)
    (goal : Memory → Except OperatorError RequeueHint → Prop) : Prop where
  read : ∀ memory (kind : Kind), rule memory (.get kind (kind.home parent))
  /-- All resources that come earlier are settled. -/
  create : ∀ memory (kind : Kind) desired,
    (∀ earlier : Kind, earlier.rank < kind.rank → Settled policy cluster parent memory earlier) →
    memory (kind.place parent) = .absent →
    kind.desired cluster policy.scheme policy.settings = .ok desired →
    rule memory (.create kind parent.namespace desired)
  replace : ∀ memory (kind : Kind) live desired,
    (∀ earlier : Kind, earlier.rank < kind.rank → Settled policy cluster parent memory earlier) →
    memory (kind.place parent) = .found live → live.metadata.isDeleting = false →
    live.drifted desired = true →
    kind.desired cluster policy.scheme policy.settings = .ok desired →
    rule memory (.replace kind (kind.home parent) (live.merge desired))
  settled : ∀ memory, (∀ kind, Settled policy cluster parent memory kind) → goal memory (.ok .done)
  unbuilt : ∀ memory (kind : Kind) error,
    kind.desired cluster policy.scheme policy.settings = .error error → goal memory (.error error)
  failed : ∀ memory (kind : Kind) error, memory (kind.place parent) = .uncertain →
    goal memory (.error error)
  pending : ∀ memory (kind : Kind) live error, memory (kind.place parent) = .found live →
    live.metadata.isDeleting = true → goal memory (.error error)

variable {rule : Memory → Call → Prop} {goal : Memory → Except OperatorError RequeueHint → Prop}
  {memory : Memory} {policy : Policy} {cluster : Cluster} {parent : ObjectKey}

section

variable (known : (kind : Kind) → Standing kind → Prop) {kind : Kind} {rest : List Kind}
  (passed : ∀ other, other ∉ kind :: rest → known other (memory (other.place parent)))
include passed

private theorem known_of_note (standing : Standing kind) {other : Kind} (notLater : other ∉ rest)
    (different : other ≠ kind) :
    known other (memory.note (kind.place parent) standing (other.place parent)) := by
  rw [Memory.note_of_ne _ (Kind.place_ne different parent)]
  apply passed
  rintro (_ | ⟨_, member⟩)
  · exact different rfl
  · exact notLater member

private theorem passed_of_note {standing : Standing kind} (here : known kind standing)
    {other : Kind} (notLater : other ∉ rest) :
    known other (memory.note (kind.place parent) standing (other.place parent)) := by
  by_cases same : other = kind
  · subst same
    rwa [Memory.note_self]
  · exact known_of_note known passed standing notLater same

end

private theorem obeys_deletions (placed : cluster.IsAt parent)
    (grants : GrantsDeletion parent rule goal)
    (kinds : List Kind) (descending : kinds.Pairwise fun kind later => later.rank < kind.rank)
    (passed : ∀ kind, kind ∉ kinds → memory (kind.place parent) = .absent) :
    (inOrder .done (kinds.map fun kind => kind.ensureDeleted cluster)).Obeys rule goal memory := by
  -- The induction is on the kinds that are still to be deleted; all others were read absent.
  induction kinds generalizing memory with
  | nil => exact grants.gone memory fun kind => passed kind List.not_mem_nil
  | cons kind rest ih =>
    obtain ⟨lower, descending⟩ := List.pairwise_cons.1 descending
    rw [List.map_cons, inOrder, Pass.obeys_bind, Kind.ensureDeleted_of_isAt placed]
    apply Kind.obeys_deleteAt (fun memory => grants.read memory kind)
    · intro live _
      apply grants.delete
      intro later above
      apply known_of_note (fun _ => (· = .absent)) passed
      · exact fun member => absurd (lower later member) (Nat.lt_asymm above)
      · rintro rfl
        exact absurd above (Nat.lt_irrefl _)
    · apply ih descending
      intro other notLater
      exact passed_of_note (fun _ => (· = .absent)) passed rfl notLater
    · intro standing error
      exact grants.failed _ error

private theorem obeys_creations (placed : cluster.IsAt parent) (enabled : cluster.nfsEnabled = true)
    (grants : GrantsCreation policy cluster parent rule goal) (kinds : List Kind)
    (ascending : kinds.Pairwise fun kind later => kind.rank < later.rank)
    (passed : ∀ kind, kind ∉ kinds → Settled policy cluster parent memory kind) :
    (inOrder .done (kinds.map fun kind => kind.ensureCreated policy cluster)).Obeys
      rule goal memory := by
  induction kinds generalizing memory with
  | nil => exact grants.settled memory fun kind => passed kind List.not_mem_nil
  | cons kind rest ih =>
    obtain ⟨higher, ascending⟩ := List.pairwise_cons.1 ascending
    let inLine (kind : Kind) (standing : Standing kind) : Prop := ∃ desired,
      kind.desired cluster policy.scheme policy.settings = .ok desired ∧ standing.InLine desired
    -- Whatever is learnt of the kind at hand, those before it stay settled.
    have earlier : ∀ standing (other : Kind), other.rank < kind.rank →
        Settled policy cluster parent (memory.note (kind.place parent) standing) other := by
      intro standing other below
      apply known_of_note inLine passed
      · exact fun member => absurd (higher other member) (Nat.lt_asymm below)
      · rintro rfl
        exact absurd below (Nat.lt_irrefl _)
    have next : ∀ standing, inLine kind standing →
        (inOrder .done (rest.map fun kind => kind.ensureCreated policy cluster)).Obeys rule goal
          (memory.note (kind.place parent) standing) := by
      intro standing here
      apply ih ascending
      intro other notLater
      exact passed_of_note inLine passed here notLater
    rw [List.map_cons, inOrder, Pass.obeys_bind]
    rcases Kind.ensureCreated_cases kind policy enabled with
      ⟨error, built, pass⟩ | ⟨other, desired, placed', built, pass⟩
    · rw [pass]
      exact grants.unbuilt memory kind error built
    · obtain rfl := placed'.unique placed
      rw [pass]
      apply Kind.obeys_createAt (Kind.displayName_of_desired placed built) (grants.read memory kind)
      · exact grants.create _ kind desired (earlier _) (Memory.note_self _ _ _) built
      · intro live unmarked drifted
        have found := Memory.note_self memory (kind.place other) (.found live)
        exact grants.replace _ kind live desired (earlier _) found unmarked drifted built
      · intro live unmarked same
        exact next (.found live) ⟨desired, built, .found unmarked same⟩
      · exact next .written ⟨desired, built, .written⟩
      · intro error
        exact grants.failed _ kind error (Memory.note_self _ _ _)
      · intro live marked
        exact grants.pending _ kind live _ (Memory.note_self _ _ _) marked

theorem obeys_ensureDeleted (placed : cluster.IsAt parent)
    (grants : GrantsDeletion parent rule goal) :
    (ensureDeleted (nfs policy) cluster).Obeys rule goal memory := by
  apply obeys_deletions placed grants [.service, .exporter, .blockPool]
  · decide
  · intro kind missing
    cases kind <;> simp at missing

theorem obeys_ensureCreated (placed : cluster.IsAt parent)
    (deletion : cluster.nfsEnabled = false → GrantsDeletion parent rule goal)
    (creation : cluster.nfsEnabled = true → GrantsCreation policy cluster parent rule goal) :
    (ensureCreated (nfs policy) cluster).Obeys rule goal memory := by
  cases enabled : cluster.nfsEnabled with
  | false =>
    have plan : creationPlan (nfs policy) cluster =
        [Kind.service, .exporter, .blockPool].map fun kind => kind.ensureDeleted cluster := by
      simp [creationPlan, nfs, Kind.manager, Kind.shouldExist, enabled]
    rw [ensureCreated, plan]
    apply obeys_deletions placed (deletion enabled)
    · decide
    · intro kind missing
      cases kind <;> simp at missing
  | true =>
    have plan : creationPlan (nfs policy) cluster =
        [Kind.blockPool, .exporter, .service].map fun kind =>
          kind.ensureCreated policy cluster := by
      simp [creationPlan, nfs, Kind.manager, Kind.shouldExist, enabled]
    rw [ensureCreated, plan]
    apply obeys_creations placed enabled (creation enabled)
    · decide
    · intro kind missing
      cases kind <;> simp at missing

end Orchestrator

end CephExport
