import CephExport.Http.Server
import CephExport.Reconcile.Cluster
import CephExport.Proofs.Http.Exchange
import CephExport.Proofs.Pass.Provision
import CephExport.Proofs.Resource.RoundTrip

/-!
The operator takes nothing that it wrote itself for drift. Whatever a cluster declares, what is sent
for a wanted object reads back as that object; and where a server shows a new object as it was sent,
with what it adds to it, the pass after the one that created it only reads.
-/

set_option autoImplicit false
set_option relaxedAutoImplicit false

namespace CephExport

/-- A server shows a new object as it was sent, with an identity, a version and a time of its
own. -/
def Call.ShowsAsSent {σ : Type} (now : Timestamp) (serve : HttpRequest → σ → HttpResponse × σ)
    {kind : Kind} (key : ObjectKey) (object : Managed kind) : Prop :=
  ∀ (posted got : HttpRequest) (sent : Json) (state : σ),
    (Call.create kind key.namespace object).request? now = some posted → posted.body = some sent →
    (Call.get kind key).request? now = some got → (serve posted state).1.isFailure = false →
    ∃ uid version time t, Timestamp.parse? time = some t ∧
      (serve got (serve posted state).2).1.isFailure = false ∧
      (serve got (serve posted state).2).1.body.written? =
        some (World.admitted sent uid version time)

namespace Kind

theorem driftNotices_admitted {kind : Kind} (desired : Managed kind) (uid version : String)
    (time : Timestamp) :
    (desired.admitted uid version time).driftNotices desired = [] := by
  unfold Managed.driftNotices
  split
  · rfl
  · cases kind with
    | blockPool | exporter => rfl
    | service =>
      obtain ⟨metadata, body⟩ := desired
      simp [Managed.bodyNotices, Managed.admitted]

section

variable {kind : Kind} {cluster : Cluster} {parent : ObjectKey} {policy : Policy}
  {desired : Managed kind} {σ : Type} {now : Timestamp}
  {serve : HttpRequest → σ → HttpResponse × σ} {state : σ}

/-- Where the server shows a new object as it was sent, the pass that created it leaves it to be
read as it is wanted, with what the server added to it. -/
theorem exists_read_after_created {key : ObjectKey} {reply : Managed kind}
    (built : kind.desired cluster policy.scheme policy.settings = .ok desired)
    (shows : Call.ShowsAsSent now serve key desired)
    (made : (⟨.create kind key.namespace desired, .ok reply⟩ : Exchange) ∈
      (kind.createAt key desired).history (Call.exchange now serve) state) :
    ∃ uid version t, (Call.exchange now serve (.get kind key)
      ((kind.createAt key desired).run (Call.exchange now serve) state).state).1 =
        .ok (some (desired.admitted uid version t)) := by
  have found := absent_of_created made
  obtain ⟨both, left⟩ := createAt_of_absent desired found
  have created : (Call.exchange now serve (.create kind key.namespace desired)
      (Call.exchange now serve (.get kind key) state).2).1 = .ok reply := by
    rw [both] at made
    simpa [eq_comm] using made
  obtain ⟨got, asked, -⟩ := Call.exists_request_of_ok found
  obtain ⟨posted, sent, answered⟩ := Call.exists_request_of_ok created
  rw [Call.exchange_of_built sent] at left
  have accepted := (Call.successObject_eq_ok_iff.1 answered).1
  obtain ⟨uid, version, time, t, read, shown, written⟩ :=
    shows posted got _ _ sent (Call.body_of_create sent) asked accepted
  obtain ⟨steady, -, admitted⟩ := sent_of_desired built
  refine ⟨uid, version, t, ?_⟩
  rw [Call.exchange_of_built asked, left]
  refine Call.readReply_eq_some_iff.2 ⟨shown, ?_⟩
  rw [written, steady, Option.bind_some, (admitted uid version time t read).2]

theorem reads_once_after_created {reply : Managed kind} (enabled : cluster.nfsEnabled = true)
    (placed : cluster.IsAt parent)
    (built : kind.desired cluster policy.scheme policy.settings = .ok desired)
    (shows : Call.ShowsAsSent now serve (kind.home parent) desired)
    (made : (⟨.create kind parent.namespace desired, .ok reply⟩ : Exchange) ∈
      (kind.ensureCreated policy cluster).history (Call.exchange now serve) state) :
    let next := ((kind.ensureCreated policy cluster).run (Call.exchange now serve) state).state
    (∃ found, (kind.ensureCreated policy cluster).history (Call.exchange now serve) next =
      [⟨.get kind (kind.home parent), .ok (some found)⟩]) ∧
    ((kind.ensureCreated policy cluster).run (Call.exchange now serve) next).events =
      [kind.event (kind.home parent) .inSync] ∧
    ((kind.ensureCreated policy cluster).run (Call.exchange now serve) next).result =
      .ok .done := by
  have creates : kind.ensureCreated policy cluster = kind.createAt (kind.home parent) desired :=
    ensureCreated_of_built enabled placed built
  rw [creates] at made ⊢
  obtain ⟨uid, version, t, reading⟩ := exists_read_after_created built shows made
  have unmarked : (desired.admitted uid version t).metadata.isDeleting = false :=
    (isDeleting_of_desired built : desired.metadata.isDeleting = false)
  obtain ⟨only, events, result⟩ := createAt_of_inSync reading unmarked
    (not_drifted_admitted desired uid version t)
  rw [driftNotices_admitted, List.nil_append] at events
  exact ⟨⟨_, only⟩, events, result⟩

end

/-- Whatever a cluster with a name, a namespace and an identity declares, the object of each kind
that is made for it is sent unchanged, reads back as it is, and does not differ from what is wanted,
also with the identity, the version and the time that a server adds. So where the server shows a new
object as it was sent, the pass after the one that created it reads it once, finds it in line, and
writes nothing. -/
theorem reads_back_what_it_wrote (kind : Kind) {served : V1alpha1.Cluster} {parent : ObjectKey}
    {identity : String} (policy : Policy) (placed : served.toCluster.IsAt parent)
    (identified : served.metadata.uid = some identity) :
    ∃ desired, kind.desired served.toCluster policy.scheme policy.settings = .ok desired ∧
      (encode desired : Json).transferred = encode desired ∧
      decode? (encode desired) = some desired ∧
      desired.drifted desired = false ∧
      (∀ (uid version time : String) (t : Timestamp), Timestamp.parse? time = some t →
        decode? (World.admitted (encode desired) uid version time) =
          some (desired.admitted uid version t) ∧
        (desired.admitted uid version t).drifted desired = false) ∧
      ∀ (σ : Type) (now : Timestamp) (serve : HttpRequest → σ → HttpResponse × σ) (state : σ)
        (reply : Managed kind), served.toCluster.nfsEnabled = true →
        Call.ShowsAsSent now serve (kind.home parent) desired →
        (⟨.create kind parent.namespace desired, .ok reply⟩ : Exchange) ∈
          (kind.ensureCreated policy served.toCluster).history (Call.exchange now serve) state →
        let next :=
          ((kind.ensureCreated policy served.toCluster).run (Call.exchange now serve) state).state
        (∃ found, (kind.ensureCreated policy served.toCluster).history
          (Call.exchange now serve) next =
          [⟨.get kind (kind.home parent), .ok (some found)⟩]) ∧
        ((kind.ensureCreated policy served.toCluster).run (Call.exchange now serve) next).events =
          [kind.event (kind.home parent) .inSync] ∧
        ((kind.ensureCreated policy served.toCluster).run (Call.exchange now serve) next).result =
          .ok .done := by
  obtain ⟨owner, owned⟩ : ∃ owner,
      policy.scheme.controllerRef served.toCluster.metadata = .ok owner :=
    policy.scheme.exists_controllerRef placed.name identified
  have built : kind.desired served.toCluster policy.scheme policy.settings = .ok _ :=
    desired_of_isAt placed owned
  obtain ⟨steady, readBack, admitted⟩ := sent_of_desired built
  refine ⟨_, built, steady, readBack, Managed.not_drifted_self _, ?_, ?_⟩
  · intro uid version time t read
    exact ⟨(admitted uid version time t read).2, not_drifted_admitted _ uid version t⟩
  · intro σ now serve state reply enabled shows made
    exact reads_once_after_created enabled placed built shows made

end Kind

/-! ### A server that keeps one object -/

namespace KeepingServer

def shown (sent : Json) : Json := World.admitted sent "7c20" "1" "2024-05-01T12:00:00Z"

def serve (request : HttpRequest) (kept : Option Json) : HttpResponse × Option Json :=
  match request.method, kept with
  | .post, _ => (ApiServer.answered (shown (request.body.getD .null)), request.body)
  | _, some sent => (ApiServer.answered (shown sent), kept)
  | _, none => (ApiServer.absent (.managed .service) "", kept)

def sampleServed : V1alpha1.Cluster where
  metadata := Cluster.sample.metadata
  spec := { nfs := some { enable := true } }
  status := none

theorem sampleServed_isAt : sampleServed.toCluster.IsAt Cluster.sampleKey := ⟨rfl, rfl⟩

variable {desired : Managed .service} {scheme : OwnerScheme} {settings : Settings} {now : Timestamp}
  {posted got : HttpRequest} {sent : Json} {kept : Option Json}

theorem method_of_create {«namespace» : String}
    (built : (Call.create .service «namespace» desired).request? now = some posted) :
    posted.method = .post := by
  simp only [Call.request?, Option.bind_eq_bind, Option.bind_eq_some_iff,
    Option.some.injEq] at built
  obtain ⟨target, -, rfl⟩ := built
  rfl

theorem method_of_get {key : ObjectKey} (built : (Call.get .service key).request? now = some got) :
    got.method = .get := by
  simp only [Call.request?, Option.bind_eq_bind, Option.bind_eq_some_iff,
    Option.some.injEq] at built
  obtain ⟨target, -, rfl⟩ := built
  rfl

theorem serve_post (method : posted.method = .post) (body : posted.body = some sent) :
    serve posted kept = (ApiServer.answered (shown sent), some sent) := by
  simp only [serve, method, body, Option.getD_some]

theorem serve_get (method : got.method = .get) :
    serve got (some sent) = (ApiServer.answered (shown sent), some sent) := by
  simp only [serve, method]

theorem exists_admitted_shown
    (built : Kind.service.desired sampleServed.toCluster scheme settings = .ok desired) :
    ∃ time, Timestamp.parse? "2024-05-01T12:00:00Z" = some time ∧
      (shown (encode desired)).transferred = shown (encode desired) ∧
      decode? (shown (encode desired)) = some (desired.admitted "7c20" "1" time) := by
  obtain ⟨time, read⟩ : ∃ t, Timestamp.parse? "2024-05-01T12:00:00Z" = some t :=
    Option.isSome_iff_exists.1 rfl
  obtain ⟨-, -, admitted⟩ := Kind.sent_of_desired built
  exact ⟨time, read, admitted "7c20" "1" "2024-05-01T12:00:00Z" time read⟩

theorem showsAsSent
    (built : Kind.service.desired sampleServed.toCluster scheme settings = .ok desired)
    (key : ObjectKey) :
    Call.ShowsAsSent now serve key desired := by
  intro posted got sent kept create body get accepted
  obtain ⟨time, read, unchanged, -⟩ := exists_admitted_shown built
  obtain ⟨steady, -, -⟩ := Kind.sent_of_desired built
  refine ⟨"7c20", "1", "2024-05-01T12:00:00Z", time, read, ?_⟩
  rw [serve_post (method_of_create create) body, serve_get (method_of_get get)]
  have same : sent = encode desired := by
    rw [Call.body_of_create create, steady] at body
    exact (Option.some.inj body).symm
  refine ⟨rfl, ?_⟩
  rw [same]
  exact congrArg some unchanged

theorem reply_create
    (built : Kind.service.desired sampleServed.toCluster scheme settings = .ok desired)
    (key : ObjectKey) :
    ∃ reply, (Call.create .service key.namespace desired).reply
      (ApiServer.answered (shown (encode desired))) = .ok reply := by
  obtain ⟨time, -, unchanged, back⟩ := exists_admitted_shown built
  have written : (ApiServer.answered (shown (encode desired))).body.written? =
      some (shown (encode desired)) :=
    congrArg some unchanged
  refine ⟨desired.admitted "7c20" "1" time, Call.successObject_eq_ok_iff.2 ⟨rfl, ?_⟩⟩
  rw [written]
  exact back

theorem created_of_none
    (built : Kind.service.desired sampleServed.toCluster scheme settings = .ok desired) :
    ∃ reply, (⟨.create .service Cluster.sampleKey.namespace desired, .ok reply⟩ : Exchange) ∈
      (Kind.service.ensureCreated ⟨scheme, settings⟩ sampleServed.toCluster).history
        (Call.exchange ApiServer.sessionTime serve) none := by
  have creates : Kind.service.ensureCreated ⟨scheme, settings⟩ sampleServed.toCluster =
      Kind.service.createAt (Kind.service.home Cluster.sampleKey) desired :=
    Kind.ensureCreated_of_built rfl sampleServed_isAt built
  obtain ⟨got, asked⟩ : ∃ got, (Call.get .service (Kind.service.home Cluster.sampleKey)).request?
      ApiServer.sessionTime = some got := Option.isSome_iff_exists.1 rfl
  obtain ⟨posted, sent⟩ : ∃ posted,
      (Call.create .service (Kind.service.home Cluster.sampleKey).namespace desired).request?
        ApiServer.sessionTime = some posted := Option.isSome_iff_exists.1 rfl
  obtain ⟨reply, answered⟩ := reply_create built (Kind.service.home Cluster.sampleKey)
  obtain ⟨steady, -, -⟩ := Kind.sent_of_desired built
  have nothing : serve got none = (ApiServer.absent (.managed .service) "", none) := by
    simp only [serve, method_of_get asked]
  have reading : Call.exchange ApiServer.sessionTime serve
      (.get .service (Kind.service.home Cluster.sampleKey)) none = (.ok none, none) := by
    rw [Call.exchange_of_built asked, nothing]
    rfl
  have body : posted.body = some (encode desired) := by
    rw [Call.body_of_create sent, steady]
  have creating : Call.exchange ApiServer.sessionTime serve
      (.create .service (Kind.service.home Cluster.sampleKey).namespace desired) none =
      (.ok reply, some (encode desired)) := by
    rw [Call.exchange_of_built sent, serve_post (method_of_create sent) body, answered]
  have both := (Kind.createAt_of_absent desired (congrArg Prod.fst reading)).1
  rw [reading, creating] at both
  rw [creates, both]
  exact ⟨reply, List.mem_cons_of_mem _ List.mem_cons_self⟩

theorem sample_steady :
    ∃ (desired : Managed .service) (reply found : Managed .service),
      (⟨.create .service Cluster.sampleKey.namespace desired, .ok reply⟩ : Exchange) ∈
        (Kind.service.ensureCreated ⟨V1alpha1.Cluster.scheme, {}⟩ sampleServed.toCluster).history
          (Call.exchange ApiServer.sessionTime serve) none ∧
      (Kind.service.ensureCreated ⟨V1alpha1.Cluster.scheme, {}⟩ sampleServed.toCluster).history
        (Call.exchange ApiServer.sessionTime serve)
        ((Kind.service.ensureCreated ⟨V1alpha1.Cluster.scheme, {}⟩ sampleServed.toCluster).run
          (Call.exchange ApiServer.sessionTime serve) none).state =
        [⟨.get .service (Kind.service.home Cluster.sampleKey), .ok (some found)⟩] := by
  obtain ⟨desired, built, -, -, -, -, rereads⟩ := Kind.reads_back_what_it_wrote .service
    ⟨V1alpha1.Cluster.scheme, {}⟩ sampleServed_isAt rfl
  obtain ⟨reply, made⟩ := created_of_none built
  obtain ⟨⟨found, only⟩, -, -⟩ :=
    rereads _ ApiServer.sessionTime serve none reply rfl (showsAsSent built _) made
  exact ⟨desired, reply, found, made, only⟩

end KeepingServer

end CephExport
