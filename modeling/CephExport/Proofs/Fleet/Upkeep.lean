import CephExport.Proofs.Pass.Orchestrator
import CephExport.Proofs.Pass.Worker
import CephExport.Proofs.Store.Knowledge

/-!
Passes that bring the resources of one cluster in line, over stores that fail no call except a
creation at a taken place and a replacement of another version. Everything that one call of such a
pass can bring about is listed once; what holds of any number of them follows from that list.
-/

set_option autoImplicit false
set_option relaxedAutoImplicit false

namespace CephExport

/-- A store that answers every call at once and refuses only creations at taken places and
replacements of another version than the one that is kept. -/
inductive Prompt : Backend Contents
  | accepted {before after : Contents} {call : Call} {reply : call.Reply}
      (taken : before.Accepts call reply after) :
      Prompt before call (.ok reply) after
  | occupied {before : Contents} {kind : Kind} {«namespace» : String} {object : Managed kind}
      (error : OperatorError)
      (present : before.Holds ⟨kind, «namespace», object.metadata.displayName⟩) :
      Prompt before (.create kind «namespace» object) (.error error) before
  | stale {before : Contents} {kind : Kind} {key : ObjectKey} {object : Managed kind}
      (error : OperatorError)
      (outdated : ∀ live, before.object ⟨kind, key⟩ = some live →
        live.metadata.resourceVersion ≠ object.metadata.resourceVersion) :
      Prompt before (.replace kind key object) (.error error) before

def Contents.InSync (policy : Policy) (cluster : Cluster) (parent : ObjectKey)
    (contents : Contents) (kind : Kind) : Prop :=
  ∃ live desired, contents.object (kind.place parent) = some live ∧
    kind.desired cluster policy.scheme policy.settings = .ok desired ∧ live.drifted desired = false

namespace Managed

variable {kind : Kind} (object desired : Managed kind)

@[simp] theorem drifted_atVersion (version : String) :
    (object.atVersion version).drifted desired = object.drifted desired :=
  drifted_congr desired rfl rfl rfl

@[simp] theorem drifted_identified (identity : Identity) :
    (object.identified identity).drifted desired = object.drifted desired :=
  drifted_congr desired rfl rfl rfl

end Managed

namespace Orchestrator

variable (policy : Policy) (cluster : Cluster) (parent : ObjectKey)

def SettledThrough (memory : Memory) (kind : Kind) : Prop :=
  ∀ earlier : Kind, earlier.rank ≤ kind.rank → Settled policy cluster parent memory earlier

/-- What a pass may call for that brings the resources of a cluster in line. -/
inductive Upkeep (memory : Memory) : Call → Prop
  | read (kind : Kind) : Upkeep memory (.get kind (kind.home parent))
  | create {kind : Kind} {desired : Managed kind}
      (earlier : ∀ earlier : Kind, earlier.rank < kind.rank →
        Settled policy cluster parent memory earlier)
      (absent : memory (kind.place parent) = .absent)
      (built : kind.desired cluster policy.scheme policy.settings = .ok desired) :
      Upkeep memory (.create kind parent.namespace desired)
  | replace {kind : Kind} {live desired : Managed kind}
      (earlier : ∀ earlier : Kind, earlier.rank < kind.rank →
        Settled policy cluster parent memory earlier)
      (found : memory (kind.place parent) = .found live)
      (unmarked : live.metadata.isDeleting = false)
      (drifted : live.drifted desired = true)
      (built : kind.desired cluster policy.scheme policy.settings = .ok desired) :
      Upkeep memory (.replace kind (kind.home parent) (live.merge desired))

/-- How such a pass ends: well only when all resources are settled, else where a call was refused or
an object is marked for deletion. -/
def Concludes (memory : Memory) : Except OperatorError RequeueHint → Prop
  | .ok _ => ∀ kind, Settled policy cluster parent memory kind
  | .error _ => ∃ kind : Kind, memory (kind.place parent) = .uncertain ∨
      ∃ live, memory (kind.place parent) = .found live ∧ live.metadata.isDeleting = true

inductive Outdated (contents : Contents) (memory : Memory) (kind : Kind) : Prop
  | appeared (absent : memory (kind.place parent) = .absent)
      (present : contents.Holds (kind.place parent))
  | changed {live desired : Managed kind} (found : memory (kind.place parent) = .found live)
      (built : kind.desired cluster policy.scheme policy.settings = .ok desired)
      (drifted : live.drifted desired = true)
      (differs : contents.object (kind.place parent) ≠ some live)

/-- What a step of such a pass does to its knowledge and to the objects: nothing, a reading, a write
that brings one resource in line, or a write that is refused because others were there first. -/
inductive Outcome (before : Contents) (memory : Memory) : Memory → Contents → Prop
  | idle : Outcome before memory memory before
  | read (kind : Kind) : Outcome before memory
      (memory.note (kind.place parent)
        (.ofReading (.ok (before.object (kind.place parent))))) before
  | wrote {after : Contents} (kind : Kind)
      (earlier : ∀ earlier : Kind, earlier.rank < kind.rank →
        Settled policy cluster parent memory earlier)
      (elsewhere : ∀ other : Kind, other ≠ kind →
        after.object (other.place parent) = before.object (other.place parent))
      (inSync : after.InSync policy cluster parent kind)
      (unmarked : after.HoldsUnmarked (kind.place parent)) :
      Outcome before memory (memory.note (kind.place parent) .written) after
  | refused (kind : Kind) (outdated : Outdated policy cluster parent before memory kind) :
      Outcome before memory (memory.note (kind.place parent) .uncertain) before

variable {policy cluster parent} {before after contents : Contents} {memory memory' : Memory}

theorem ensureCreated_upkeep (placed : cluster.IsAt parent) (enabled : cluster.nfsEnabled = true)
    {owner : OwnerReference} (owned : policy.scheme.controllerRef cluster.metadata = .ok owner) :
    (ensureCreated (nfs policy) cluster).Obeys (Upkeep policy cluster parent)
      (Concludes policy cluster parent) memory := by
  apply obeys_ensureCreated placed
  · intro disabled
    rw [enabled] at disabled
    cases disabled
  · intro _
    exact {
      read := fun _ kind => .read kind
      create := fun _ _ _ earlier absent built => .create earlier absent built
      replace := fun _ _ _ _ earlier found unmarked drifted built =>
        .replace earlier found unmarked drifted built
      settled := fun _ settled => settled
      unbuilt := by
        intro _ kind error unbuilt
        rw [Kind.desired_of_isAt placed owned] at unbuilt
        cases unbuilt
      failed := fun _ kind _ uncertain => ⟨kind, .inl uncertain⟩
      pending := fun _ kind live _ found marked => ⟨kind, .inr ⟨live, found, marked⟩⟩ }

private theorem outcome_of_stored {kind : Kind} {object desired : Managed kind} {version : String}
    (earlier : ∀ earlier : Kind, earlier.rank < kind.rank →
      Settled policy cluster parent memory earlier)
    (built : kind.desired cluster policy.scheme policy.settings = .ok desired)
    (same : object.drifted desired = false) (unmarked : object.metadata.isDeleting = false) :
    Outcome policy cluster parent before memory (memory.note (kind.place parent) .written)
      (before.store (kind.place parent) object version) := by
  have stored : (before.store (kind.place parent) object version).object (kind.place parent) =
      some (object.atVersion version) := by rw [Contents.store_object_self]
  refine .wrote kind earlier ?_ ?_ ⟨_, stored, unmarked⟩
  · intro other different
    exact Contents.store_object_of_ne _ _ _ (Kind.place_ne different parent)
  · exact ⟨_, desired, stored, built, by rwa [Managed.drifted_atVersion]⟩

theorem outcome_of_prompt (placed : cluster.IsAt parent) {call : Call} {answer : call.Answer}
    (permitted : Upkeep policy cluster parent memory call)
    (served : Prompt before call answer after) :
    Outcome policy cluster parent before memory (memory.learn call answer) after := by
  cases permitted with
  | read kind =>
    cases served with
    | accepted taken =>
      cases taken
      exact .read kind
  | @create kind desired earlier absent built =>
    have named : desired.metadata.displayName = (kind.home parent).name :=
      Kind.displayName_of_desired placed built
    cases served with
    | accepted taken =>
      cases taken with
      | @create _ _ _ version identity free fresh =>
        have same : (desired.identified identity).drifted desired = false := by
          rw [Managed.drifted_identified, Managed.not_drifted_self]
        have unmarked : desired.metadata.isDeleting = false := Kind.isDeleting_of_desired built
        rw [Memory.learn, named]
        exact outcome_of_stored earlier built same unmarked
    | occupied error present =>
      rw [Memory.learn, named]
      rw [named] at present
      exact .refused kind (.appeared absent present)
  | @replace kind live desired earlier found unmarked drifted built =>
    cases served with
    | accepted taken =>
      cases taken with
      | replace kept same fresh =>
        have merged : (live.merge desired).metadata.isDeleting = false := by
          rw [Managed.isDeleting_merge, unmarked]
        exact outcome_of_stored earlier built (Managed.not_drifted_merge live desired) merged
    | stale error outdated =>
      refine .refused kind (.changed found built drifted ?_)
      intro kept
      apply outdated live kept
      rw [Managed.metadata_merge]

theorem inSync_congr {kind : Kind}
    (same : after.object (kind.place parent) = before.object (kind.place parent)) :
    after.InSync policy cluster parent kind ↔ before.InSync policy cluster parent kind := by
  rw [Contents.InSync, Contents.InSync, same]

theorem settled_of_reading {kind : Kind} (inSync : before.InSync policy cluster parent kind)
    (unmarked : ∀ live, before.object (kind.place parent) = some live →
      live.metadata.isDeleting = false) :
    Settled policy cluster parent
      (memory.note (kind.place parent)
        (.ofReading (.ok (before.object (kind.place parent))))) kind := by
  obtain ⟨live, desired, kept, built, same⟩ := inSync
  refine ⟨desired, built, ?_⟩
  rw [Memory.note_self, kept]
  exact .found (unmarked live kept) same

theorem Settled.not_uncertain {kind : Kind} (settled : Settled policy cluster parent memory kind) :
    memory (kind.place parent) ≠ .uncertain := by
  intro uncertain
  obtain ⟨desired, -, inLine⟩ := settled
  rw [uncertain] at inLine
  cases inLine

theorem Outdated.not_settled {kind : Kind}
    (outdated : Outdated policy cluster parent contents memory kind) :
    ¬Settled policy cluster parent memory kind := by
  rintro ⟨wanted, builtToo, inLine⟩
  cases outdated with
  | appeared absent _ =>
    rw [absent] at inLine
    cases inLine
  | changed found built drifted _ =>
    rw [found] at inLine
    cases inLine with
    | found _ same =>
      obtain rfl := Except.ok.inj (built.symm.trans builtToo)
      rw [drifted] at same
      cases same

namespace Outcome

variable {kind : Kind}

theorem inSync (outcome : Outcome policy cluster parent before memory memory' after)
    (inSync : before.InSync policy cluster parent kind) :
    after.InSync policy cluster parent kind := by
  cases outcome with
  | idle | read _ | refused _ _ => exact inSync
  | wrote written _ elsewhere made _ =>
    by_cases same : kind = written
    · rwa [same]
    · exact (inSync_congr (elsewhere kind same)).2 inSync

theorem holds (outcome : Outcome policy cluster parent before memory memory' after)
    (present : before.Holds (kind.place parent)) : after.Holds (kind.place parent) := by
  cases outcome with
  | idle | read _ | refused _ _ => exact present
  | wrote written _ elsewhere _ unmarked =>
    by_cases same : kind = written
    · subst same
      exact unmarked.holds
    · exact (Contents.holds_congr (elsewhere kind same)).2 present

theorem unmarked (outcome : Outcome policy cluster parent before memory memory' after)
    (unmarked : ∀ (kind : Kind) live, before.object (kind.place parent) = some live →
      live.metadata.isDeleting = false) {live : Managed kind}
    (kept : after.object (kind.place parent) = some live) : live.metadata.isDeleting = false := by
  cases outcome with
  | idle | read _ | refused _ _ => exact unmarked kind live kept
  | wrote written _ elsewhere _ placed =>
    by_cases same : kind = written
    · subst same
      obtain ⟨stored, here, free⟩ := placed
      obtain rfl : live = stored := Option.some.inj (kept.symm.trans here)
      exact free
    · rw [elsewhere kind same] at kept
      exact unmarked kind live kept

theorem settled (outcome : Outcome policy cluster parent before memory memory' after)
    (sound : ∀ kind, Settled policy cluster parent memory kind →
      before.InSync policy cluster parent kind)
    (unmarked : ∀ (kind : Kind) live, before.object (kind.place parent) = some live →
      live.metadata.isDeleting = false)
    (settled : Settled policy cluster parent memory kind) :
    Settled policy cluster parent memory' kind := by
  have kept : ∀ (other : Kind) standing, kind ≠ other →
      Settled policy cluster parent (memory.note (other.place parent) standing) kind := by
    intro other standing different
    rw [Settled, Memory.note_of_ne _ (Kind.place_ne different parent)]
    exact settled
  cases outcome with
  | idle => exact settled
  | read other =>
    by_cases same : kind = other
    · subst same
      exact settled_of_reading (sound kind settled) (unmarked kind)
    · exact kept other _ same
  | wrote other =>
    by_cases same : kind = other
    · subst same
      obtain ⟨desired, built, -⟩ := settled
      refine ⟨desired, built, ?_⟩
      rw [Memory.note_self]
      exact .written
    · exact kept other _ same
  | refused other outdated =>
    by_cases same : kind = other
    · subst same
      exact absurd settled outdated.not_settled
    · exact kept other _ same

theorem changed (outcome : Outcome policy cluster parent before memory memory' after)
    (sound : ∀ kind, Settled policy cluster parent memory kind →
      before.InSync policy cluster parent kind)
    (unmarked : ∀ (kind : Kind) live, before.object (kind.place parent) = some live →
      live.metadata.isDeleting = false) (kind : Kind) :
    after.object (kind.place parent) = before.object (kind.place parent) ∨
      after.InSync policy cluster parent kind ∧
        SettledThrough policy cluster parent memory' kind := by
  have persists : ∀ other, Settled policy cluster parent memory other →
      Settled policy cluster parent memory' other :=
    fun other settled => outcome.settled sound unmarked settled
  cases outcome with
  | idle | read _ | refused _ _ => exact .inl rfl
  | wrote other earlier elsewhere inSync _ =>
    by_cases same : kind = other
    · subst same
      refine .inr ⟨inSync, fun below atMost => ?_⟩
      rcases Nat.lt_or_eq_of_le atMost with less | equal
      · exact persists below (earlier below less)
      · obtain rfl : below = kind := Kind.rank_injective equal
        obtain ⟨_, desired, _, built, _⟩ := inSync
        refine ⟨desired, built, ?_⟩
        rw [Memory.note_self]
        exact .written
    · exact .inl (elsewhere kind same)

theorem uncertain (outcome : Outcome policy cluster parent before memory memory' after)
    (uncertain : memory' (kind.place parent) = .uncertain) :
    memory (kind.place parent) = .uncertain ∨
    Outdated policy cluster parent before memory kind := by
  cases outcome with
  | idle => exact .inl uncertain
  | read other =>
    by_cases same : kind = other
    · subst same
      rw [Memory.note_self] at uncertain
      cases reading : before.object (kind.place parent) with
      | none =>
        rw [reading] at uncertain
        cases uncertain
      | some live =>
        rw [reading] at uncertain
        cases uncertain
    · rw [Memory.note_of_ne _ (Kind.place_ne same parent)] at uncertain
      exact .inl uncertain
  | wrote other =>
    by_cases same : kind = other
    · subst same
      rw [Memory.note_self] at uncertain
      cases uncertain
    · rw [Memory.note_of_ne _ (Kind.place_ne same parent)] at uncertain
      exact .inl uncertain
  | refused other outdated =>
    by_cases same : kind = other
    · subst same
      exact .inr outdated
    · rw [Memory.note_of_ne _ (Kind.place_ne same parent)] at uncertain
      exact .inl uncertain

end Outcome

/-- What a pass knows of the resource of a kind, among others of its kind: what it has read was
there at first or is in sync, and what it has settled is in sync. -/
structure Informed (policy : Policy) (cluster : Cluster) (parent : ObjectKey)
    (initial contents : Contents) (kind : Kind) (standing : Standing kind) : Prop where
  absent : standing = .absent → initial.object (kind.place parent) = none
  found : ∀ live, standing = .found live → live.metadata.isDeleting = false ∧
    (initial.object (kind.place parent) = some live ∨
      ∃ desired, kind.desired cluster policy.scheme policy.settings = .ok desired ∧
      live.drifted desired = false)
  settled : ∀ desired, kind.desired cluster policy.scheme policy.settings = .ok desired →
    standing.InLine desired →
    contents.InSync policy cluster parent kind

def UntouchedOrInSync (policy : Policy) (cluster : Cluster) (parent : ObjectKey)
    (initial contents : Contents) (kind : Kind) : Prop :=
  contents.object (kind.place parent) = initial.object (kind.place parent) ∨
    contents.InSync policy cluster parent kind

namespace Informed

variable {initial : Contents} {kind : Kind} {standing : Standing kind}

theorem of_inSync (informed : Informed policy cluster parent initial before kind standing)
    (kept : before.InSync policy cluster parent kind → after.InSync policy cluster parent kind) :
    Informed policy cluster parent initial after kind standing where
  absent := informed.absent
  found := informed.found
  settled desired built inLine := kept (informed.settled desired built inLine)

theorem unread : Informed policy cluster parent initial contents kind .unread where
  absent h := by cases h
  found _ h := by cases h
  settled _ _ h := by cases h

theorem uncertain : Informed policy cluster parent initial contents kind .uncertain where
  absent h := by cases h
  found _ h := by cases h
  settled _ _ h := by cases h

theorem written (inSync : contents.InSync policy cluster parent kind) :
    Informed policy cluster parent initial contents kind .written where
  absent h := by cases h
  found _ h := by cases h
  settled _ _ _ := inSync

theorem ofReading (touched : UntouchedOrInSync policy cluster parent initial contents kind)
    (unmarked : ∀ live, contents.object (kind.place parent) = some live →
      live.metadata.isDeleting = false) :
    Informed policy cluster parent initial contents kind
      (.ofReading (.ok (contents.object (kind.place parent)))) := by
  cases reading : contents.object (kind.place parent) with
  | none =>
    refine ⟨fun _ => ?_, ?_, ?_⟩
    · rcases touched with same | ⟨live, _, kept, -⟩
      · rw [← same, reading]
      · rw [reading] at kept
        cases kept
    · rintro _ ⟨⟩
    · rintro _ _ ⟨⟩
  | some live =>
    refine ⟨?_, ?_, ?_⟩
    · rintro ⟨⟩
    · rintro _ ⟨⟩
      refine ⟨unmarked live reading, ?_⟩
      rcases touched with same | ⟨current, desired, kept, built, agrees⟩
      · exact .inl (same.symm.trans reading)
      · obtain rfl : live = current := Option.some.inj (reading.symm.trans kept)
        exact .inr ⟨desired, built, agrees⟩
    · rintro desired built (⟨_, same⟩ | _)
      exact ⟨live, desired, reading, built, same⟩

end Informed

/-- Every step of a pass keeps it informed. -/
theorem Outcome.informed {initial : Contents}
    (outcome : Outcome policy cluster parent before memory memory' after)
    (touched : ∀ kind, UntouchedOrInSync policy cluster parent initial before kind)
    (unmarked : ∀ (kind : Kind) live, before.object (kind.place parent) = some live →
      live.metadata.isDeleting = false)
    (informed : ∀ kind : Kind,
      Informed policy cluster parent initial before kind (memory (kind.place parent)))
    (kind : Kind) :
    Informed policy cluster parent initial after kind (memory' (kind.place parent)) := by
  have kept : Informed policy cluster parent initial after kind (memory (kind.place parent)) :=
    (informed kind).of_inSync outcome.inSync
  cases outcome with
  | idle => exact kept
  | read other =>
    by_cases same : kind = other
    · subst same
      rw [Memory.note_self]
      exact .ofReading (touched kind) (unmarked kind)
    · rwa [Memory.note_of_ne _ (Kind.place_ne same parent)]
  | wrote other _ _ inSync _ =>
    by_cases same : kind = other
    · subst same
      rw [Memory.note_self]
      exact .written inSync
    · rwa [Memory.note_of_ne _ (Kind.place_ne same parent)]
  | refused other _ =>
    by_cases same : kind = other
    · subst same
      rw [Memory.note_self]
      exact .uncertain
    · rwa [Memory.note_of_ne _ (Kind.place_ne same parent)]

theorem Outdated.not_initial {initial : Contents} {kind : Kind}
    (outdated : Outdated policy cluster parent contents memory kind)
    (informed : Informed policy cluster parent initial contents kind (memory (kind.place parent))) :
    contents.object (kind.place parent) ≠ initial.object (kind.place parent) := by
  intro same
  cases outdated with
  | appeared absent present =>
    rw [informed.absent absent] at same
    exact present same
  | changed found built drifted differs =>
    obtain ⟨-, initially | ⟨desired, builtToo, agrees⟩⟩ := informed.found _ found
    · exact differs (same.trans initially)
    · obtain rfl := Except.ok.inj (built.symm.trans builtToo)
      rw [drifted] at agrees
      cases agrees

end Orchestrator

end CephExport
