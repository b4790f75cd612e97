import CephExport.Proofs.Pass.Course
import CephExport.Proofs.Resource.Inputs
import CephExport.Reconcile.Cluster

/-!
Passes that cannot be told apart. For a cluster that exports no NFS the pass that creates does what
the pass that deletes does, and the passes over two clusters that want the same do the same,
whatever else these clusters and the settings differ in.
-/

set_option autoImplicit false
set_option relaxedAutoImplicit false

namespace CephExport

namespace Pass

variable {α : Type} {first second : Pass α}

/-- However their calls are answered, two passes make the same calls with the same objects, report
the same, end in the same way and leave the same state behind. -/
structure ActsLike (first second : Pass α) : Prop where
  history : ∀ (σ : Type) (answer : (call : Call) → σ → call.Answer × σ) (state : σ),
    first.history answer state = second.history answer state
  run : ∀ (σ : Type) (answer : (call : Call) → σ → call.Answer × σ) (state : σ),
    first.run answer state = second.run answer state

theorem actsLike_of_eq (same : first = second) : first.ActsLike second := by
  subst same
  exact ⟨fun _ _ _ => rfl, fun _ _ _ => rfl⟩

end Pass

theorem Cluster.nfsEnabled_eq_false_iff {cluster : Cluster} :
    cluster.nfsEnabled = false ↔ cluster.spec.nfs = none ∨ cluster.spec.nfs = some ⟨false⟩ := by
  rw [Cluster.nfsEnabled]
  cases declared : cluster.spec.nfs with
  | none => simp
  | some nfs => cases nfs with | mk enable => cases enable <;> simp

namespace Kind

variable {kind : Kind} {key : ObjectKey} {cluster other : Cluster} {exchanges : List Exchange}
  {events : List Event} {result : Except OperatorError RequeueHint}

theorem Removal.writes_eq_deletes (removal : Removal kind key exchanges events result)
    (asked : Kind) :
    ∀ exchange ∈ exchanges, exchange.writes asked = exchange.deletes asked := by
  have reads :
      ∀ {later : List Exchange} {said : List Event} {ending : Except OperatorError RequeueHint},
        Confirmation kind key later said ending →
        ∀ exchange ∈ later, exchange.writes asked = exchange.deletes asked := by
    rintro _ _ _ (_ | _ | _) <;> exact List.forall_mem_singleton.2 rfl
  cases removal with
  | unread | absent => exact List.forall_mem_singleton.2 rfl
  | marked _ confirmed => exact List.forall_mem_cons.2 ⟨rfl, reads confirmed⟩
  | refused => exact List.forall_mem_cons.2 ⟨rfl, List.forall_mem_singleton.2 rfl⟩
  | deleted _ confirmed | vanished _ _ _ confirmed =>
    exact List.forall_mem_cons.2 ⟨rfl, List.forall_mem_cons.2 ⟨rfl, reads confirmed⟩⟩

theorem Deletion.writes_eq_deletes (deletion : Deletion kind cluster exchanges events result)
    (asked : Kind) :
    ∀ exchange ∈ exchanges, exchange.writes asked = exchange.deletes asked := by
  cases deletion with
  | unplaced => exact fun _ member => nomatch member
  | placed _ removal => exact removal.writes_eq_deletes asked

theorem ensureDeleted_eq (kind : Kind) (same : cluster.SamePlace other) :
    kind.ensureDeleted cluster = kind.ensureDeleted other := by
  rw [ensureDeleted, ensureDeleted, kind.keyFor_eq same]

theorem ensureCreated_eq (kind : Kind) {settings settings' : Settings}
    (alike : cluster.WantsAlike other) (fills : settings.controller.FillsAlike settings'.controller)
    (scheme : OwnerScheme) :
    kind.ensureCreated ⟨scheme, settings⟩ cluster =
      kind.ensureCreated ⟨scheme, settings'⟩ other := by
  have wanted : kind.shouldExist cluster = kind.shouldExist other := alike.nfsEnabled
  have space : cluster.namespaceOf = other.namespaceOf := by
    rw [Cluster.namespaceOf, Cluster.namespaceOf, alike.namespace]
  rw [ensureCreated, ensureCreated, wanted, kind.desired_eq alike fills scheme, space,
    kind.ensureDeleted_eq alike.toSamePlace]

end Kind

namespace Orchestrator

variable {cluster other : Cluster}

theorem ensureDeleted_eq (policy policy' : Policy) (same : cluster.SamePlace other) :
    ensureDeleted (nfs policy) cluster = ensureDeleted (nfs policy') other := by
  have each : ∀ kind : Kind, kind.ensureDeleted cluster = kind.ensureDeleted other :=
    fun kind => kind.ensureDeleted_eq same
  rw [ensureDeleted_nfs, ensureDeleted_nfs]
  simp only [each]

theorem ensureCreated_eq {settings settings' : Settings} (alike : cluster.WantsAlike other)
    (fills : settings.controller.FillsAlike settings'.controller) (scheme : OwnerScheme) :
    ensureCreated (nfs ⟨scheme, settings⟩) cluster =
      ensureCreated (nfs ⟨scheme, settings'⟩) other := by
  cases enabled : other.nfsEnabled with
  | false =>
    rw [ensureCreated_of_disabled enabled,
      ensureCreated_of_disabled (alike.nfsEnabled.trans enabled)]
    exact ensureDeleted_eq _ _ alike.toSamePlace
  | true =>
    have each : ∀ kind : Kind,
        kind.ensureCreated ⟨scheme, settings⟩ cluster =
          kind.ensureCreated ⟨scheme, settings'⟩ other :=
      fun kind => kind.ensureCreated_eq alike fills scheme
    rw [ensureCreated_of_enabled enabled, ensureCreated_of_enabled (alike.nfsEnabled.trans enabled)]
    simp only [each]

/-- The pass that is to create resources only removes them, and all that it takes of its cluster is
where they are: neither the identity of the cluster nor anything that objects are built of makes a
difference. -/
structure OnlyRemoves (policy : Policy) (cluster : Cluster) : Prop where
  all : (ensureCreated (nfs policy) cluster).ActsLike (ensureDeleted (nfs policy) cluster)
  each : ∀ kind : Kind, (kind.ensureCreated policy cluster).ActsLike (kind.ensureDeleted cluster)
  regardless : ∀ (policy' : Policy) (other : Cluster), cluster.SamePlace other →
    (ensureCreated (nfs policy) cluster).ActsLike (ensureDeleted (nfs policy') other) ∧
      ∀ kind : Kind, (kind.ensureCreated policy cluster).ActsLike (kind.ensureDeleted other)
  /-- Nothing is created and nothing replaced. -/
  removes : ∀ exchanges events result,
    (ensureCreated (nfs policy) cluster).Ends exchanges events result →
    ∀ exchange ∈ exchanges, ∀ kind, exchange.writes kind = exchange.deletes kind

/-- Where NFS is not exported, creating is deleting. -/
theorem onlyRemoves_of_disabled
    (disabled : cluster.spec.nfs = none ∨ cluster.spec.nfs = some ⟨false⟩) (policy : Policy) :
    OnlyRemoves policy cluster := by
  have off := Cluster.nfsEnabled_eq_false_iff.2 disabled
  have whole : ensureCreated (nfs policy) cluster = ensureDeleted (nfs policy) cluster :=
    ensureCreated_of_disabled off
  have part : ∀ kind : Kind, kind.ensureCreated policy cluster = kind.ensureDeleted cluster :=
    fun _ => Kind.ensureCreated_of_unwanted off
  refine ⟨Pass.actsLike_of_eq whole, fun kind => Pass.actsLike_of_eq (part kind), ?_, ?_⟩
  · intro policy' other same
    refine ⟨Pass.actsLike_of_eq (whole.trans (ensureDeleted_eq policy policy' same)),
      fun kind => ?_⟩
    exact Pass.actsLike_of_eq ((part kind).trans (kind.ensureDeleted_eq same))
  · intro exchanges events result ended exchange member kind
    have course := course_of_ensureCreated ended
    rw [off] at course
    cases course with
    | deletions turns =>
      exact turns.forall_exchange (fun _ _ _ _ deletion => deletion.writes_eq_deletes kind)
        exchange member

def retired : Cluster where
  metadata := { name := some "ceph", «namespace» := some "rook" }
  spec := { nfs := some { enable := false } }
  status := none

def withLastingService : (call : Call) → Unit → call.Answer × Unit
  | .get .service _, _ => (.ok (some ⟨{}, ({} : ServiceBody)⟩), ())
  | .get .blockPool _, _ | .get .exporter _, _ => (.ok none, ())
  | .create _ _ object, _ | .replace _ _ object, _ => (.ok object, ())
  | .delete _ _, _ | .setPhase _ _, _ | .addFinalizer _ _, _ | .removeFinalizer _ _, _ =>
    (.ok (), ())

/-- Both passes over the cluster wait for its Service, though the cluster has no identity. -/
theorem retired_onlyRemoves :
    retired.metadata.uid = none ∧
    ((ensureDeleted (nfs ⟨V1alpha1.Cluster.scheme, {}⟩) retired).run withLastingService ()).result =
      .error (.stillDeleting "Service" "ceph-cephnfs-service") ∧
    ((ensureCreated (nfs ⟨V1alpha1.Cluster.scheme, {}⟩) retired).run withLastingService ()).result =
      .error (.stillDeleting "Service" "ceph-cephnfs-service") ∧
    OnlyRemoves ⟨V1alpha1.Cluster.scheme, {}⟩ retired := by
  have only : OnlyRemoves ⟨V1alpha1.Cluster.scheme, {}⟩ retired :=
    onlyRemoves_of_disabled (.inr rfl) _
  refine ⟨rfl, rfl, ?_, only⟩
  rw [only.all.run]
  rfl

/-- The passes over two clusters that want the same make the same calls with the same objects and
end alike, over every store and whatever else the clusters and the settings say. -/
theorem acts_alike_of_wantsAlike {settings settings' : Settings} (alike : cluster.WantsAlike other)
    (fills : settings.controller.FillsAlike settings'.controller) (scheme : OwnerScheme) :
    (ensureCreated (nfs ⟨scheme, settings⟩) cluster).ActsLike
      (ensureCreated (nfs ⟨scheme, settings'⟩) other) ∧
    (ensureDeleted (nfs ⟨scheme, settings⟩) cluster).ActsLike
      (ensureDeleted (nfs ⟨scheme, settings'⟩) other) :=
  ⟨Pass.actsLike_of_eq (ensureCreated_eq alike fills scheme),
    Pass.actsLike_of_eq (ensureDeleted_eq _ _ alike.toSamePlace)⟩

def placedSample : Cluster :=
  { Cluster.sample with
    spec := { Cluster.sample.spec with placement := .ofList [(nfsDaemon, {})] } }

/-- The same cluster later on, with labels and a status, and a placement for all daemons behind that
of the servers. -/
def laterSample : Cluster where
  metadata := { Cluster.sample.metadata with
    resourceVersion := some "42", labels := some (.ofList [("tier", "gold")]),
      finalizers := some [clusterFinalizer] }
  spec := { Cluster.sample.spec with
    network := some { hostNetwork := false }
    resources := .ofList [("mds", {})]
    placement := .ofList [(allDaemons, { tolerations := some [] }), (nfsDaemon, {})] }
  status := some ⟨"ready", none⟩

def unhurried : Settings := { controller := { requeueIntervalSecs := 3600 } }

theorem laterSample_wantsAlike : placedSample.WantsAlike laterSample where
  name := rfl
  «namespace» := rfl
  uid := rfl
  nfsEnabled := rfl
  hostNetwork := rfl
  failureDomain := rfl
  replica := rfl
  resources := rfl
  placement := by decide

theorem laterSample_acts_alike :
    placedSample.WantsAlike laterSample ∧
    ((ensureCreated (nfs ⟨V1alpha1.Cluster.scheme, {}⟩) placedSample).history
      withLastingService ()).length = 6 ∧
    (ensureCreated (nfs ⟨V1alpha1.Cluster.scheme, {}⟩) placedSample).history withLastingService () =
      (ensureCreated (nfs ⟨V1alpha1.Cluster.scheme, unhurried⟩) laterSample).history
        withLastingService () := by
  have fills : (({} : Settings).controller).FillsAlike unhurried.controller :=
    ⟨rfl, rfl, rfl, rfl, rfl⟩
  have alike := acts_alike_of_wantsAlike laterSample_wantsAlike fills V1alpha1.Cluster.scheme
  exact ⟨laterSample_wantsAlike, rfl, alike.1.history Unit withLastingService ()⟩

end Orchestrator

end CephExport
