import CephExport.Proofs.Pass.Addressing
import CephExport.Proofs.Pass.Provision
import CephExport.Proofs.Session.Establishment
import CephExport.Reconcile.Cluster

/-!
Services that are headless where their cluster wants an address, or the other way round. Their
address is never rewritten. A pass reports one just if it finds its owners and labels in order, so
that where these have drifted only the passes after the one that puts them right do.
-/

set_option autoImplicit false
set_option relaxedAutoImplicit false

namespace CephExport

namespace Event

def isHeadlessMismatch : Event → Bool
  | headlessMismatch .. => true
  | _ => false

def headlessReports (events : List Event) : List Event := events.filter isHeadlessMismatch

end Event

def ServiceBody.address (body : ServiceBody) : Option String := body.spec.bind (·.clusterIP)

namespace Managed

/-- A live Service is headless where its cluster wants an address, or the other way round. -/
structure HeadlessAgainst (live : Managed .service) (cluster : Cluster) : Prop where
  unmarked : live.metadata.isDeleting = false
  declared : (ServiceBody.spec live.body).isSome = true
  differs : ServiceBody.headless live.body ≠ cluster.hostNetwork

def headlessReport (live : Managed .service) (cluster : Cluster) : Event :=
  .headlessMismatch live.metadata.displayName (live.metadata.namespace.getD "") cluster.hostNetwork

/-- A Service of the same name has the same address. -/
structure SameAddress (old new : Managed .service) : Prop where
  name : new.metadata.displayName = old.metadata.displayName
  «namespace» : new.metadata.namespace = old.metadata.namespace
  isDeleting : new.metadata.isDeleting = old.metadata.isDeleting
  declared : (ServiceBody.spec new.body).isSome = (ServiceBody.spec old.body).isSome
  address : ServiceBody.address new.body = ServiceBody.address old.body

variable {policy : Policy} {cluster : Cluster} {desired live later last : Managed .service}

theorem SameAddress.refl (live : Managed .service) : live.SameAddress live :=
  ⟨rfl, rfl, rfl, rfl, rfl⟩

theorem SameAddress.trans (first : live.SameAddress later) (second : later.SameAddress last) :
    live.SameAddress last where
  name := second.name.trans first.name
  «namespace» := second.namespace.trans first.namespace
  isDeleting := second.isDeleting.trans first.isDeleting
  declared := second.declared.trans first.declared
  address := second.address.trans first.address

theorem SameAddress.headlessReport_eq (same : live.SameAddress later) (cluster : Cluster) :
    later.headlessReport cluster = live.headlessReport cluster := by
  rw [headlessReport, headlessReport, same.name, same.namespace]

theorem HeadlessAgainst.of_sameAddress (against : live.HeadlessAgainst cluster)
    (same : live.SameAddress later) :
    later.HeadlessAgainst cluster where
  unmarked := same.isDeleting.trans against.unmarked
  declared := same.declared.trans against.declared
  differs := by
    have headless : ServiceBody.headless later.body = ServiceBody.headless live.body :=
      congrArg (· == some headlessAddress) same.address
    rw [headless]
    exact against.differs

theorem sameAddress_merge (declared : (ServiceBody.spec live.body).isSome = true)
    (desired : Managed .service) (version : String) :
    live.SameAddress ((live.merge desired).atVersion version) := by
  obtain ⟨metadata, ⟨spec, status⟩⟩ := live
  obtain ⟨spec, rfl⟩ := Option.isSome_iff_exists.1 declared
  exact ⟨rfl, rfl, rfl, rfl, rfl⟩

theorem headless_of_desired
    (built : Kind.service.desired cluster policy.scheme policy.settings = .ok desired) :
    ServiceBody.headless desired.body = cluster.hostNetwork := by
  obtain ⟨parent, owner, -, -, -, rfl⟩ := Kind.exists_eq_of_desired built
  change ((if cluster.hostNetwork then some headlessAddress else none) == some headlessAddress) = _
  cases cluster.hostNetwork <;> rfl

/-- The comparison with the wanted Service gets as far as the address only if owners and labels
agree. -/
theorem driftNotices_of_headlessAgainst (against : live.HeadlessAgainst cluster)
    (built : Kind.service.desired cluster policy.scheme policy.settings = .ok desired) :
    live.driftNotices desired =
      if live.identityDrifted desired = true then [] else [live.headlessReport cluster] := by
  have differs : ¬(ServiceBody.headless live.body == cluster.hostNetwork) = true := by
    simpa using against.differs
  have notices : live.bodyNotices desired = [live.headlessReport cluster] := by
    simp only [bodyNotices, headless_of_desired built, if_neg differs]
    rfl
  rw [driftNotices, notices]

theorem headlessReports_driftNotices (against : live.HeadlessAgainst cluster)
    (built : Kind.service.desired cluster policy.scheme policy.settings = .ok desired)
    (key : ObjectKey) (what : ResourceEvent) :
    Event.headlessReports (live.driftNotices desired ++ [Kind.service.event key what]) =
      if live.identityDrifted desired = true then [] else [live.headlessReport cluster] := by
  rw [driftNotices_of_headlessAgainst against built]
  split <;> rfl

theorem not_identityDrifted_of_not_drifted (same : live.drifted desired = false) :
    live.identityDrifted desired = false := (Bool.or_eq_false_iff.1 same).1

theorem not_identityDrifted_merge (live desired : Managed .service) (version : String) :
    ((live.merge desired).atVersion version).identityDrifted desired = false := by
  apply not_identityDrifted_of_not_drifted
  rw [drifted_atVersion, not_drifted_merge]

end Managed

namespace Unreliable

variable {before after : Contents} {kind : Kind} {key : ObjectKey}

theorem eq_of_get {answer : (Call.get kind key).Answer}
    (served : Unreliable Contents.Accepts before (.get kind key) answer after) :
    after = before := by
  rcases served.effect with same | ⟨reply, taken⟩
  · exact same
  · exact (Contents.accepts_get.1 taken).2

theorem found_first {found kept : Option (Managed kind)} {rest : List Exchange}
    (there : before.object ⟨kind, key⟩ = kept) (served : (Unreliable Contents.Accepts).Serves before
      (⟨.get kind key, .ok found⟩ :: rest) after) :
    found = kept ∧ (Unreliable Contents.Accepts).Serves before rest after := by
  obtain ⟨between, read, later⟩ := Backend.serves_cons_iff.1 served
  obtain rfl := read.eq_of_get
  cases read with
  | accepted taken => exact ⟨(Contents.accepts_get.1 taken).1.trans there, later⟩

theorem kept_of_replace {object : Managed kind} {answer : (Call.replace kind key object).Answer}
    (served : Unreliable Contents.Accepts before (.replace kind key object) answer after) :
    (after = before ∧ ∃ error, answer = .error error) ∨
      ∃ version, after.object ⟨kind, key⟩ = some (object.atVersion version) := by
  cases served with
  | failed error => exact .inl ⟨rfl, error, rfl⟩
  | accepted taken | lost _ taken =>
    cases taken with
    | replace => exact .inr ⟨_, Contents.store_object_self _ _ _⟩

end Unreliable

variable {policy : Policy} {cluster : Cluster} {parent : ObjectKey}
  {desired live : Managed .service} {before after : Contents} {exchanges : List Exchange}
  {events : List Event} {result : Except OperatorError RequeueHint}

/-- A pass over a Service that is headless against the wish of its cluster leaves its address, puts
owners and labels right if it ends well, and reports it if these were right before. -/
theorem Kind.Provision.headless {key : ObjectKey} (against : live.HeadlessAgainst cluster)
    (built : service.desired cluster policy.scheme policy.settings = .ok desired)
    (kept : before.object ⟨.service, key⟩ = some live)
    (provision : Provision .service key desired exchanges events result)
    (served : (Unreliable Contents.Accepts).Serves before exchanges after) :
    (∃ later, after.object ⟨.service, key⟩ = some later ∧ live.SameAddress later ∧
      (result = .ok .done → later.identityDrifted desired = false)) ∧
    ((∃ found, exchanges.head? = some ⟨.get .service key, .ok found⟩) →
      Event.headlessReports events =
        if live.identityDrifted desired = true then [] else [live.headlessReport cluster]) := by
  have reported := Managed.headlessReports_driftNotices against built key
  have stays : ∀ version, live.SameAddress ((live.merge desired).atVersion version) :=
    Managed.sameAddress_merge against.declared desired
  have inOrder : ∀ version,
      ((live.merge desired).atVersion version).identityDrifted desired = false :=
    Managed.not_identityDrifted_merge live desired
  cases provision with
  | unread =>
    obtain rfl := (Backend.serves_singleton_iff.1 served).eq_of_get
    refine ⟨⟨live, kept, .refl live, nofun⟩, ?_⟩
    rintro ⟨found, first⟩
    cases Provision.found_inj first
  | notCreated | created => obtain ⟨⟨⟩, -⟩ := Unreliable.found_first kept served
  | pending marked =>
    obtain ⟨⟨⟩, -⟩ := Unreliable.found_first kept served
    rw [against.unmarked] at marked
    cases marked
  | inSync _ same =>
    obtain ⟨⟨⟩, last⟩ := Unreliable.found_first kept served
    obtain rfl := Backend.serves_nil_iff.1 last
    have agrees := Managed.not_identityDrifted_of_not_drifted same
    exact ⟨⟨live, kept, .refl live, fun _ => agrees⟩, fun _ => reported .inSync⟩
  | notReplaced =>
    obtain ⟨⟨⟩, wrote⟩ := Unreliable.found_first kept served
    refine ⟨?_, fun _ => reported .updating⟩
    rcases (Backend.serves_singleton_iff.1 wrote).kept_of_replace with ⟨rfl, -⟩ | ⟨version, stored⟩
    · exact ⟨live, kept, .refl live, nofun⟩
    · exact ⟨_, stored, stays version, nofun⟩
  | replaced =>
    obtain ⟨⟨⟩, wrote⟩ := Unreliable.found_first kept served
    refine ⟨?_, fun _ => reported .updating⟩
    rcases (Backend.serves_singleton_iff.1 wrote).kept_of_replace with ⟨-, error, ⟨⟩⟩
      | ⟨version, stored⟩
    exact ⟨_, stored, stays version, fun _ => inOrder version⟩

/-- Passes over the Service of a cluster that follow one another, with what each of them reports. -/
inductive Kind.ServiceRounds (policy : Policy) (cluster : Cluster) :
    Contents → List (List Event) → Contents → Prop
  | finished (contents : Contents) : ServiceRounds policy cluster contents [] contents
  | pass {before between after : Contents} {exchanges : List Exchange} {events : List Event}
      {result : Except OperatorError RequeueHint} {reports : List (List Event)}
      (ended : (service.ensureCreated policy cluster).Ends exchanges events result)
      (served : (Reliable Contents.Accepts).Serves before exchanges between)
      (later : ServiceRounds policy cluster between reports after) :
      ServiceRounds policy cluster before (events :: reports) after

namespace Kind

section

variable (placed : cluster.IsAt parent)
  (built : service.desired cluster policy.scheme policy.settings = .ok desired)
  (enabled : cluster.nfsEnabled = true)
include placed built enabled

theorem headless_of_ends (kept : before.object (service.place parent) = some live)
    (against : live.HeadlessAgainst cluster)
    (ended : (service.ensureCreated policy cluster).Ends exchanges events result)
    (served : (Unreliable Contents.Accepts).Serves before exchanges after) :
    (∃ later, after.object (service.place parent) = some later ∧ live.SameAddress later ∧
      (result = .ok .done → later.identityDrifted desired = false)) ∧
    ((∃ found, exchanges.head? = some ⟨.get .service (service.home parent), .ok found⟩) →
      Event.headlessReports events =
        if live.identityDrifted desired = true then [] else [live.headlessReport cluster]) := by
  rw [ensureCreated_of_built enabled placed built] at ended
  exact (provision_of_ends ended).headless against built kept served

theorem read_of_reliable (renewable : before.Renewable)
    (kept : before.object (service.place parent) = some live)
    (unmarked : live.metadata.isDeleting = false)
    (ended : (service.ensureCreated policy cluster).Ends exchanges events result)
    (served : (Reliable Contents.Accepts).Serves before exchanges after) :
    result = .ok .done ∧
      ∃ found, exchanges.head? = some ⟨.get .service (service.home parent), .ok found⟩ := by
  obtain ⟨-, owner, -, owned, -⟩ := exists_parent_of_desired built
  have creation := creation_of_ends enabled ended
  obtain ⟨done, -⟩ := creation.establishes placed owned renewable
    (fun object there => by
      obtain rfl := Option.some.inj (there.symm.trans kept)
      exact unmarked) served
  obtain ⟨⟨answer, first⟩, -⟩ := ensureCreated_keepsTo placed built exchanges events result ended
  obtain ⟨rest, rfl⟩ := List.head?_eq_some_iff.1 first
  obtain ⟨rfl, -⟩ := Reliable.reading_first (fun _ _ => Contents.accepts_get) served
  exact ⟨done, _, rfl⟩

theorem ServiceRounds.headless {reports : List (List Event)}
    (rounds : ServiceRounds policy cluster before reports after) (renewable : before.Renewable)
    (kept : before.object (service.place parent) = some live)
    (against : live.HeadlessAgainst cluster) :
    (∃ later, after.object (service.place parent) = some later ∧ live.SameAddress later) ∧
      ∀ round events, reports[round]? = some events → Event.headlessReports events =
        if round = 0 ∧ live.identityDrifted desired = true then []
        else [live.headlessReport cluster] := by
  induction rounds generalizing live with
  | finished => exact ⟨⟨live, kept, .refl live⟩, nofun⟩
  | pass ended served _ ih =>
    obtain ⟨done, read⟩ := read_of_reliable placed built enabled renewable kept against.unmarked
      ended served
    have unreliable := served.mono fun _ _ _ _ => Reliable.unreliable
    obtain ⟨⟨next, there, same, inOrder⟩, reported⟩ :=
      headless_of_ends placed built enabled kept against ended unreliable
    obtain ⟨⟨last, atEnd, stays⟩, later⟩ :=
      ih (unreliable.renewable renewable) there (against.of_sameAddress same)
    refine ⟨⟨last, atEnd, same.trans stays⟩, ?_⟩
    intro round events here
    cases round with
    | zero =>
      obtain rfl := Option.some.inj here
      rw [reported read]
      simp
    | succ round =>
      -- The pass before this one has put owners and labels right.
      rw [later round events here, same.headlessReport_eq, inOrder done]
      simp

end

theorem exists_serviceRounds (policy : Policy) (cluster : Cluster) (before : Contents)
    (count : Nat) :
    ∃ reports after, ServiceRounds policy cluster before reports after ∧
      reports.length = count := by
  induction count generalizing before with
  | zero => exact ⟨[], before, .finished before, rfl⟩
  | succ count ih =>
    let server := Implementation.choosing (Reliable.exists_answer Contents.Accepts)
    have ended := Pass.ends_run server.answer (service.ensureCreated policy cluster) before
    have served := server.serves_history (service.ensureCreated policy cluster) before
    obtain ⟨reports, after, later, length⟩ := ih
      (server.view (Pass.run server.answer _ before).state)
    exact ⟨_, after, .pass ended served later, congrArg (· + 1) length⟩

end Kind

/-- What becomes of a Service that is headless against the wish of its cluster. -/
structure Managed.HeadlessReporting (policy : Policy) (cluster : Cluster) (parent : ObjectKey)
    (desired live : Managed .service) (before : Contents) : Prop where
  /-- However the store answers, a pass leaves the address. -/
  notRewritten : ∀ exchanges events result after,
    (Kind.service.ensureCreated policy cluster).Ends exchanges events result →
    (Unreliable Contents.Accepts).Serves before exchanges after →
    ∃ later, after.object (Kind.service.place parent) = some later ∧ live.SameAddress later
  /-- A pass whose reading is answered reports the Service once if owners and labels are in
  order. -/
  reported : ∀ exchanges events result after,
    (Kind.service.ensureCreated policy cluster).Ends exchanges events result →
    (Unreliable Contents.Accepts).Serves before exchanges after →
    (∃ found, exchanges.head? = some ⟨.get .service (Kind.service.home parent), .ok found⟩) →
    Event.headlessReports events =
      if live.identityDrifted desired = true then [] else [live.headlessReport cluster]
  /-- Where no call fails without need, each pass but the first reports the Service once in any
  case. -/
  reportedLater : ∀ reports after, Kind.ServiceRounds policy cluster before reports after →
    (∃ later, after.object (Kind.service.place parent) = some later ∧ live.SameAddress later) ∧
      ∀ round events, reports[round]? = some events → Event.headlessReports events =
        if round = 0 ∧ live.identityDrifted desired = true then []
        else [live.headlessReport cluster]
  /-- Such passes can be run in any number. -/
  goesOn : ∀ count, ∃ reports after, Kind.ServiceRounds policy cluster before reports after ∧
    reports.length = count

/-- A Service that is headless against the wish of its cluster is never rewritten in this. It is
reported by each pass that finds owners and labels in order, and so by all that come after the
first. -/
theorem Kind.headless_reported_in_order (placed : cluster.IsAt parent)
    (built : service.desired cluster policy.scheme policy.settings = .ok desired)
    (enabled : cluster.nfsEnabled = true) (renewable : before.Renewable)
    (kept : before.object (service.place parent) = some live)
    (against : live.HeadlessAgainst cluster) :
    Managed.HeadlessReporting policy cluster parent desired live before where
  notRewritten exchanges events result after ended served := by
    obtain ⟨⟨later, there, same, -⟩, -⟩ := headless_of_ends placed built enabled kept against
      ended served
    exact ⟨later, there, same⟩
  reported exchanges events result after ended served :=
    (headless_of_ends placed built enabled kept against ended served).2
  reportedLater reports after rounds := rounds.headless placed built enabled renewable kept against
  goesOn count := exists_serviceRounds policy cluster before count

def Managed.strayHeadless : Managed .service :=
  ⟨{ name := some "ceph-cephnfs-service", «namespace» := some "rook", resourceVersion := some "1" },
    { spec := some { clusterIP := some headlessAddress } }⟩

theorem Managed.strayHeadless_against : strayHeadless.HeadlessAgainst .sample where
  unmarked := rfl
  declared := rfl
  differs := by decide

namespace Contents

def withStrayHeadless : Contents :=
  empty.store (Kind.service.place Cluster.sampleKey) Managed.strayHeadless "1"

theorem renewable_withStrayHeadless : withStrayHeadless.Renewable := renewable_empty.store _ _ _

theorem withStrayHeadless_object :
    withStrayHeadless.object (Kind.service.place Cluster.sampleKey) =
      some Managed.strayHeadless := by
  rw [withStrayHeadless, store_object_self]
  rfl

end Contents

namespace Kind

theorem strayHeadless_reported_in_order :
    ∃ desired, service.desired .sample V1alpha1.Cluster.scheme {} = .ok desired ∧
      Managed.HeadlessReporting ⟨V1alpha1.Cluster.scheme, {}⟩ .sample Cluster.sampleKey desired
        Managed.strayHeadless Contents.withStrayHeadless := by
  obtain ⟨desired, built⟩ :
      ∃ desired, service.desired .sample V1alpha1.Cluster.scheme {} = .ok desired := ⟨_, rfl⟩
  refine ⟨desired, built, ?_⟩
  exact headless_reported_in_order Cluster.sample_isAt built rfl
    Contents.renewable_withStrayHeadless
    Contents.withStrayHeadless_object Managed.strayHeadless_against

/-- The first pass over the stray Service says nothing about its address, since it has no owner. -/
theorem strayHeadless_not_reported_at_first :
    Contents.withStrayHeadless.object (service.place Cluster.sampleKey) =
      some Managed.strayHeadless ∧
      Managed.strayHeadless.HeadlessAgainst .sample ∧
      ∃ exchanges events after,
        (service.ensureCreated ⟨V1alpha1.Cluster.scheme, {}⟩ .sample).Ends exchanges events
          (.ok .done) ∧
        (Reliable Contents.Accepts).Serves Contents.withStrayHeadless exchanges after ∧
        Event.headlessReports events = [] := by
  obtain ⟨desired, built, unowned⟩ : ∃ desired,
      service.desired .sample V1alpha1.Cluster.scheme {} = .ok desired ∧
        Managed.strayHeadless.identityDrifted desired = true := ⟨_, rfl, rfl⟩
  have kept := Contents.withStrayHeadless_object
  have against := Managed.strayHeadless_against
  let pass : Pass RequeueHint := service.ensureCreated ⟨V1alpha1.Cluster.scheme, {}⟩ .sample
  let server := Implementation.choosing (Reliable.exists_answer Contents.Accepts)
  have ended := Pass.ends_run server.answer pass Contents.withStrayHeadless
  have served := server.serves_history pass Contents.withStrayHeadless
  obtain ⟨done, read⟩ := read_of_reliable Cluster.sample_isAt built rfl
    Contents.renewable_withStrayHeadless kept
    against.unmarked ended served
  have unreliable := served.mono fun _ _ _ _ => Reliable.unreliable
  obtain ⟨-, reported⟩ := headless_of_ends Cluster.sample_isAt built rfl kept against
    ended unreliable
  rw [done] at ended
  refine ⟨kept, against, _, _, _, ended, served, ?_⟩
  rw [reported read, if_pos unowned]

end Kind

end CephExport
