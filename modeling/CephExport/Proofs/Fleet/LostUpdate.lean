import CephExport.Proofs.Fleet.Basic
import CephExport.Proofs.Pass.Resource

/-!
Passes over resources among other clients that write whatever they like. A pass carries the version
of the object that it read into its replacement, and no version is given out twice, so a replacement
that is accepted meets the very object that was read: nobody's change is overwritten.
-/

set_option autoImplicit false
set_option relaxedAutoImplicit false

namespace CephExport

theorem Managed.KeepsForeign.atVersion {kind : Kind} {old new : Managed kind}
    (h : old.KeepsForeign new)
    (version : String) : old.KeepsForeign (new.atVersion version) where
  metadata := by
    rw [Managed.atVersion, h.metadata]
  labels := h.labels
  body := h.body

/-- An object is only replaced by what was read of it, unmarked, brought in line with a wanted
object. -/
def ReplacesWhatWasRead (memory : Memory) : Call → Prop
  | .replace kind key submitted =>
    ∃ (live desired : Managed kind) (cluster : Cluster) (policy : Policy),
      memory ⟨kind, key⟩ = .found live ∧ live.metadata.isDeleting = false ∧
        kind.desired cluster policy.scheme policy.settings = .ok desired ∧
        submitted = live.merge desired
  | _ => True

namespace Kind

variable (kind : Kind) (policy : Policy) (cluster : Cluster) (memory : Memory)

theorem ensureDeleted_replacesWhatWasRead :
    (kind.ensureDeleted cluster).Obeys ReplacesWhatWasRead (fun _ _ => True) memory := by
  rcases ensureDeleted_cases kind cluster with ⟨error, failing⟩ | ⟨parent, -, deleting⟩
  · rw [failing]
    trivial
  · rw [deleting]
    exact obeys_deleteAt (fun _ => trivial) (fun _ _ => trivial) trivial fun _ _ => trivial

theorem ensureCreated_replacesWhatWasRead :
    (kind.ensureCreated policy cluster).Obeys ReplacesWhatWasRead (fun _ _ => True) memory := by
  cases wanted : kind.shouldExist cluster with
  | false =>
    rw [ensureCreated_of_unwanted wanted]
    exact ensureDeleted_replacesWhatWasRead kind cluster memory
  | true =>
    rcases ensureCreated_cases kind policy wanted with
      ⟨error, -, failing⟩ | ⟨parent, desired, placed, built, creating⟩
    · rw [failing]
      trivial
    · rw [creating]
      have replace : ∀ live : Managed kind, live.metadata.isDeleting = false →
          ReplacesWhatWasRead (memory.note (kind.place parent) (.found live))
            (.replace kind (kind.home parent) (live.merge desired)) := by
        intro live unmarked
        exact ⟨live, desired, cluster, policy, Memory.note_self _ _ _, unmarked, built, rfl⟩
      exact obeys_createAt (displayName_of_desired placed built) trivial trivial
        (fun live unmarked _ => replace live unmarked)
        (fun _ _ _ => trivial) trivial (fun _ => trivial)
        fun _ _ => trivial

end Kind

structure Worker.Careful (contents : Contents) (worker : Worker RequeueHint) : Prop where
  obeys : worker.Obeys ReplacesWhatWasRead fun _ _ => True
  tracked : ∀ place live, worker.memory place = .found live → contents.Tracks place live

namespace Worker

variable {before after contents : Contents} {worker next : Worker RequeueHint}

theorem Careful.of_precedes (careful : worker.Careful before) (h : before.Precedes after) :
    worker.Careful after where
  obeys := careful.obeys
  tracked place live found := h.tracks (careful.tracked place live found)

private theorem kept_of_reading {place : Place} {live : Managed place.kind}
    (served : Unreliable Contents.Accepts before
      (.get place.kind place.key) (.ok (some live)) after) :
    after.object place = some live := by
  generalize reading : (Except.ok (some live) : (Call.get place.kind place.key).Answer) =
    answer at served
  cases served with
  | accepted taken =>
    cases taken
    exact (Except.ok.inj reading).symm
  | failed => cases reading
  | lost => cases reading

theorem Careful.of_step {exchange : Option Exchange} (careful : worker.Careful before)
    (step : worker.Step (Unreliable Contents.Accepts) before exchange next after) :
    next.Careful after := by
  refine ⟨step.obeys careful.obeys, fun place live found => ?_⟩
  cases step with
  | report => exact careful.tracked place live found
  | call served =>
    rcases Memory.found_of_learn found with known | reading
    · exact served.precedes.tracks (careful.tracked place live known)
    · cases reading
      exact Contents.tracks_of_kept (kept_of_reading served)

theorem Step.precedes {exchange : Option Exchange}
    (step : worker.Step (Unreliable Contents.Accepts) before exchange next after) :
    before.Precedes after := by
  cases step with
  | report => exact .refl _
  | call served => exact served.precedes

end Worker

namespace Fleet

inductive IsResourcePass : Pass RequeueHint → Prop
  | ensureCreated (kind : Kind) (policy : Policy) (cluster : Cluster) :
      IsResourcePass (kind.ensureCreated policy cluster)
  | ensureDeleted (kind : Kind) (cluster : Cluster) : IsResourcePass (kind.ensureDeleted cluster)

/-- What happens among other clients: a pass begins, a pass goes on, or another client changes an
object. -/
inductive Contest : Fleet → Fleet → Prop
  | start {fleet : Fleet} {pass : Pass RequeueHint} (started : IsResourcePass pass) :
      Contest fleet ⟨fleet.contents, fleet.workers ++ [⟨pass, .blank⟩]⟩
  | turn {before after : Fleet} {exchange : Option Exchange}
      (turn : Turn (Unreliable Contents.Accepts) before exchange after) : Contest before after
  | change {before after : Contents} {workers : List (Worker RequeueHint)}
      (change : before.Change after) :
      Contest ⟨before, workers⟩ ⟨after, workers⟩

/-- The states that come about, from any contents with no pass under way. -/
inductive Contested : Fleet → Prop
  | idle (contents : Contents) : Contested ⟨contents, []⟩
  | step {before after : Fleet} (reached : Contested before) (contest : Contest before after) :
      Contested after

def Careful (fleet : Fleet) : Prop := ∀ worker ∈ fleet.workers, worker.Careful fleet.contents

theorem Careful.of_contest {before after : Fleet} (careful : before.Careful)
    (contest : Contest before after) :
    after.Careful := by
  intro worker member
  cases contest with
  | start started =>
    rcases List.mem_append.1 member with old | new
    · exact careful worker old
    · obtain rfl := List.mem_singleton.1 new
      refine ⟨?_, fun _ _ found => by cases found⟩
      cases started with
      | ensureCreated kind policy cluster =>
        exact kind.ensureCreated_replacesWhatWasRead policy cluster _
      | ensureDeleted kind cluster => exact kind.ensureDeleted_replacesWhatWasRead cluster _
  | turn turn =>
    obtain ⟨taking, among, next, -, step, others, -⟩ := turn.inversion
    rcases others worker member with rfl | old
    · exact (careful taking among).of_step step
    · exact (careful worker old).of_precedes step.precedes
  | change change => exact (careful worker member).of_precedes change.precedes

theorem careful_of_contested {fleet : Fleet} (reached : Contested fleet) : fleet.Careful := by
  induction reached with
  | idle contents => exact fun worker member => nomatch member
  | step _ contest ih => exact ih.of_contest contest

/-- Whatever passes run and whatever others write meanwhile, a replacement that a store accepts
meets the object that the pass has read, which is not marked for deletion, and keeps all that others
set on it; nothing else is changed. -/
theorem replace_keepsForeign_of_contested {fleet : Fleet} (reached : Contested fleet)
    {worker : Worker RequeueHint} (active : worker ∈ fleet.workers) {kind : Kind} {key : ObjectKey}
    {submitted : Managed kind} {rest : (Call.replace kind key submitted).Answer → Pass RequeueHint}
    (asks : worker.pass = .ask (.replace kind key submitted) rest)
    {reply : (Call.replace kind key submitted).Reply} {after : Contents}
    (accepted : fleet.contents.Accepts (.replace kind key submitted) reply after) :
    ∃ old new, fleet.contents.object ⟨kind, key⟩ = some old ∧ old.metadata.isDeleting = false ∧
      after.object ⟨kind, key⟩ = some new ∧ old.KeepsForeign new ∧
      ∀ other, other ≠ ⟨kind, key⟩ → after.object other = fleet.contents.object other := by
  have careful := careful_of_contested reached worker active
  have permitted : ReplacesWhatWasRead worker.memory (.replace kind key submitted) := by
    have obeys := careful.obeys
    rw [Worker.Obeys, asks] at obeys
    exact obeys.1
  obtain ⟨read, desired, cluster, policy, found, unmarked, built, rfl⟩ := permitted
  cases accepted with
  | @replace _ _ _ old version kept same fresh =>
    -- The submitted object carries the version of the reading, which only that object ever had.
    have carried : (read.merge desired).metadata.resourceVersion =
        read.metadata.resourceVersion := by
      rw [Managed.metadata_merge]
    obtain ⟨given, -, versionOf⟩ := fleet.contents.versioned ⟨kind, key⟩ old kept
    have versionRead : read.metadata.resourceVersion = some given := by
      rw [← carried, ← same, versionOf]
    have tracked := careful.tracked ⟨kind, key⟩ read found
    obtain rfl : old = read := (tracked given versionRead).2 old kept versionOf
    have foreign : ∀ key, ¬IsOperatorLabel key → desired.metadata.labelMap.get? key = none :=
      fun key notOwn => Kind.get?_labelMap_of_desired notOwn built
    refine ⟨old, (old.merge desired).atVersion version, kept, unmarked, ?_, ?_, ?_⟩
    · rw [Contents.store_object_self]
    · exact (Managed.keepsForeign_merge old desired foreign).atVersion version
    · intro other different
      exact Contents.store_object_of_ne _ _ _ different

/-- A Service in the place of the sample's that others annotated and nobody owns. -/
def strayService : Managed .service :=
  ⟨{ annotations := some (.ofList [("team", "storage")]), resourceVersion := some "1" }, {}⟩

def strayContents : Contents :=
  Contents.empty.store (Kind.service.place Cluster.sampleKey) strayService "1"

theorem strayService_keepsForeign :
    ∃ (fleet : Fleet) (submitted : Managed .service) (after : Contents),
    Contested fleet ∧
    fleet.contents.Accepts (.replace .service (Kind.service.home Cluster.sampleKey) submitted)
      (submitted.atVersion "2") after ∧
    ∃ old new, fleet.contents.object (Kind.service.place Cluster.sampleKey) = some old ∧
      old.metadata.isDeleting = false ∧
      after.object (Kind.service.place Cluster.sampleKey) = some new ∧
      old.KeepsForeign new ∧ ∀ other, other ≠ Kind.service.place Cluster.sampleKey →
        after.object other = fleet.contents.object other := by
  let policy : Policy := ⟨⟨"v1", "StorageCluster"⟩, {}⟩
  obtain ⟨desired, built, drifted, unowned⟩ : ∃ desired,
      Kind.service.desired .sample policy.scheme policy.settings = .ok desired ∧
        strayService.drifted desired = true ∧ strayService.identityDrifted desired = true :=
        ⟨_, rfl, rfl, rfl⟩
  have begun :=
    (Contested.idle strayContents).step (.start (.ensureCreated .service policy .sample))
  rw [Kind.ensureCreated_of_built rfl Cluster.sample_isAt built] at begun
  have kept : strayContents.object (Kind.service.place Cluster.sampleKey) = some strayService := by
    rw [strayContents, Contents.store_object_self]
    rfl
  have reading : Unreliable Contents.Accepts strayContents
      (.get .service (Kind.service.home Cluster.sampleKey))
      (.ok (some strayService)) strayContents := by
    rw [← kept]
    exact .accepted (.get .service _)
  have read := begun.step (.turn (.head (.call reading)))
  change Contested ⟨_, [⟨Kind.service.update _ strayService desired, _⟩]⟩ at read
  rw [Kind.update, Managed.driftNotices, if_pos unowned, if_pos drifted] at read
  have asks := read.step (.turn (.head .report))
  have accepted : strayContents.Accepts
      (.replace .service (Kind.service.home Cluster.sampleKey) (strayService.merge desired))
      ((strayService.merge desired).atVersion "2") _ :=
    .replace kept rfl (by simp [strayContents, Contents.empty])
  refine ⟨_, _, _, asks, accepted, ?_⟩
  exact replace_keepsForeign_of_contested asks (List.mem_singleton.2 rfl) rfl accepted

end Fleet

end CephExport
