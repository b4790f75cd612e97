import CephExport.Proofs.Pass.Reconciliation
import CephExport.Proofs.Session.Orphans

/-!
A pass over a storage cluster stops at its first failure and ends with the error of that failure,
so that the policy for errors can tell a deletion that goes on from everything else. The one failure
that a pass goes on after is the deletion of a resource that is gone already, which is then read
back.
-/

set_option autoImplicit false
set_option relaxedAutoImplicit false

namespace CephExport

/-- The error with which a pass fails at an exchange, if it does, after the exchanges `before`. An
object that is found fails a pass that has asked for it before, since it should be gone, and one
that creates, if the object is marked. -/
def Exchange.failure? (creating : Bool) (before : List Exchange) :
    Exchange → Option OperatorError
  | ⟨.get kind key, .ok (some live)⟩ =>
    if ∃ exchange ∈ before, exchange.Concerns ⟨kind, key⟩ then
      some (.stillDeleting kind.name key.name)
    else if creating && live.metadata.isDeleting then some (.pendingDeletion kind.name key.name)
    else none
  | ⟨.delete _ _, .error error⟩ => if error.isNotFound then none else some error
  | ⟨.addFinalizer _ _, .error error⟩ => some (Reconcile.finalizerFailure "add" error)
  | ⟨.removeFinalizer _ _, .error error⟩ => some (Reconcile.finalizerFailure "remove" error)
  | ⟨_, .error error⟩ => some error
  | ⟨_, .ok _⟩ => none

def failureOf {α : Type} : Except OperatorError α → Option OperatorError
  | .ok _ => none
  | .error error => some error

/-- After the exchanges `before`, the first of some exchanges that fails the pass is the last one,
and the pass ends with its error. Without one, it ends with an error only if that is excused. -/
def StopsAtFailure (creating : Bool) (excused : OperatorError → Prop) :
    List Exchange → List Exchange → Option OperatorError → Prop
  | _, [], ending => ∀ error, ending = some error → excused error
  | before, exchange :: rest, ending =>
    match exchange.failure? creating before with
    | some error => rest = [] ∧ ending = some error
    | none => StopsAtFailure creating excused (before ++ [exchange]) rest ending

namespace StopsAtFailure

variable {creating : Bool} {excused : OperatorError → Prop} {before first second : List Exchange}
  {ending : Option OperatorError}

theorem of_failure {exchange : Exchange} {error : OperatorError}
    (fails : exchange.failure? creating before = some error) :
    StopsAtFailure creating excused before [exchange] (some error) := by
  rw [StopsAtFailure, fails]
  exact ⟨rfl, rfl⟩

theorem cons {exchange : Exchange} (goesOn : exchange.failure? creating before = none)
    (rest : StopsAtFailure creating excused (before ++ [exchange]) first ending) :
    StopsAtFailure creating excused before (exchange :: first) ending := by
  rw [StopsAtFailure, goesOn]
  exact rest

theorem nil_none : StopsAtFailure creating excused before [] none := by
  rintro error ⟨⟩

theorem append (early : StopsAtFailure creating excused before first none)
    (late : StopsAtFailure creating excused (before ++ first) second ending) :
    StopsAtFailure creating excused before (first ++ second) ending := by
  -- Whether an exchange fails a pass depends on what was before it, and that grows along the list.
  induction first generalizing before with
  | nil => simpa using late
  | cons exchange rest ih =>
    rw [StopsAtFailure] at early
    cases fails : exchange.failure? creating before with
    | some error =>
      rw [fails] at early
      cases early.2
    | none =>
      rw [fails] at early
      refine cons fails (ih early ?_)
      simpa using late

theorem mono {weaker : OperatorError → Prop}
    (stops : StopsAtFailure creating excused before first ending)
    (weaken : ∀ error, excused error → weaker error) :
    StopsAtFailure creating weaker before first ending := by
  induction first generalizing before with
  | nil => exact fun error same => weaken error (stops error same)
  | cons exchange rest ih =>
    rw [StopsAtFailure] at stops ⊢
    cases fails : exchange.failure? creating before with
    | some error =>
      rw [fails] at stops
      exact stops
    | none =>
      rw [fails] at stops
      exact ih stops

/-- No exchange follows one that fails the pass, which ends with the error of that one. -/
theorem of_split (stops : StopsAtFailure creating excused before first ending)
    {earlier later : List Exchange} {exchange : Exchange} {error : OperatorError}
    (split : first = earlier ++ exchange :: later)
    (fails : exchange.failure? creating (before ++ earlier) = some error) :
    later = [] ∧ ending = some error := by
  induction earlier generalizing before first with
  | nil =>
    subst split
    rw [List.append_nil] at fails
    rwa [List.nil_append, StopsAtFailure, fails] at stops
  | cons head earlier ih =>
    subst split
    rw [List.cons_append, StopsAtFailure] at stops
    cases headFails : head.failure? creating before with
    | some other =>
      rw [headFails] at stops
      exact absurd stops.1 (by simp)
    | none =>
      rw [headFails] at stops
      exact ih stops rfl (by simpa using fails)

theorem cause {error : OperatorError}
    (stops : StopsAtFailure creating excused before first (some error)) :
    (∃ earlier exchange, first = earlier ++ [exchange] ∧
      exchange.failure? creating (before ++ earlier) = some error) ∨ excused error := by
  induction first generalizing before with
  | nil => exact .inr (stops error rfl)
  | cons head rest ih =>
    rw [StopsAtFailure] at stops
    cases headFails : head.failure? creating before with
    | some other =>
      rw [headFails] at stops
      obtain ⟨rfl, same⟩ := stops
      exact .inl ⟨[], head, rfl, by simp [headFails, same]⟩
    | none =>
      rw [headFails] at stops
      refine (ih stops).imp_left ?_
      rintro ⟨earlier, exchange, rfl, fails⟩
      exact ⟨head :: earlier, exchange, rfl, by simpa using fails⟩

end StopsAtFailure

/-- A resource that turns out to be gone when it is deleted is read back at once, and then left
alone. -/
def ReadsBack (exchanges : List Exchange) : Prop :=
  ∀ before kind key error after,
    exchanges = before ++ (⟨.delete kind key, .error error⟩ : Exchange) :: after →
    error.isNotFound = true →
    ∃ reply rest, after = (⟨.get kind key, reply⟩ : Exchange) :: rest ∧
      ∀ exchange ∈ rest, ¬exchange.About kind

theorem readsBack_cons {exchange : Exchange} {rest : List Exchange} (late : ReadsBack rest)
    (here : ∀ kind key error, exchange = ⟨.delete kind key, .error error⟩ →
      error.isNotFound = true → ∃ reply later, rest = (⟨.get kind key, reply⟩ : Exchange) :: later ∧
        ∀ other ∈ later, ¬other.About kind) :
    ReadsBack (exchange :: rest) := by
  intro before kind key error after split missing
  rcases List.cons_eq_append_iff.1 split with ⟨rfl, first⟩ | ⟨earlier, rfl, second⟩
  · obtain ⟨rfl, rfl⟩ := List.cons.inj first
    exact here kind key error rfl missing
  · exact late _ _ _ _ _ second missing

theorem ReadsBack.append {first second : List Exchange} (early : ReadsBack first)
    (late : ReadsBack second)
    (apart : ∀ exchange ∈ first, ∀ other ∈ second, ∀ kind, exchange.About kind →
      ¬other.About kind) :
    ReadsBack (first ++ second) := by
  intro before kind key error after split missing
  rcases Exchange.split_append split with ⟨rest, rfl, rfl⟩ | ⟨rest, rfl, rfl⟩
  · obtain ⟨reply, later, rfl, left⟩ := early _ _ _ _ _ rfl missing
    refine ⟨reply, later ++ second, rfl, ?_⟩
    intro exchange member
    rcases List.mem_append.1 member with old | new
    · exact left exchange old
    · exact apart ⟨.delete kind key, .error error⟩ (by simp) exchange new kind ⟨key, rfl⟩
  · exact late _ _ _ _ _ rfl missing

theorem readsBack_of_no_deletion {exchanges : List Exchange}
    (none : ∀ exchange ∈ exchanges, ∀ kind, exchange.deletes kind = false) :
    ReadsBack exchanges := by
  rintro before kind key error after rfl -
  have deletes := none ⟨.delete kind key, .error error⟩ (by simp) kind
  simp at deletes

namespace Kind

variable {kind : Kind} {key : ObjectKey} {excused : OperatorError → Prop}
  {before exchanges : List Exchange} {events : List Event}
  {result : Except OperatorError RequeueHint}

private theorem not_concerns_of_unasked (unasked : ∀ exchange ∈ before, ¬exchange.About kind)
    (key : ObjectKey) : ¬∃ exchange ∈ before, exchange.Concerns ⟨kind, key⟩ := by
  rintro ⟨exchange, member, concerns⟩
  exact unasked exchange member concerns.about

theorem Confirmation.stopsAtFailure {creating : Bool}
    (asked : ∃ exchange ∈ before, exchange.Concerns ⟨kind, key⟩)
    (confirmed : Confirmation kind key exchanges events result) :
    StopsAtFailure creating excused before exchanges (failureOf result) := by
  cases confirmed with
  | failed error => exact .of_failure rfl
  | gone => exact .cons rfl .nil_none
  | present live => exact .of_failure (if_pos asked)

theorem Removal.stopsAtFailure (unasked : ∀ exchange ∈ before, ¬exchange.About kind)
    (removal : Removal kind key exchanges events result) :
    StopsAtFailure false excused before exchanges (failureOf result) := by
  have read : ∀ live : Managed kind,
      (⟨.get kind key, .ok (some live)⟩ : Exchange).failure? false before = none := by
    intro live
    simp [Exchange.failure?, not_concerns_of_unasked unasked key]
  have asked : ∀ (earlier : List Exchange) (exchange : Exchange), exchange.Concerns ⟨kind, key⟩ →
      ∃ other ∈ earlier ++ [exchange], other.Concerns ⟨kind, key⟩ :=
    fun earlier exchange concerns => ⟨exchange, by simp, concerns⟩
  cases removal with
  | unread error => exact .of_failure rfl
  | absent => exact .cons rfl .nil_none
  | marked _ confirmed => exact .cons (read _) (confirmed.stopsAtFailure (asked _ _ rfl))
  | refused error _ other =>
    exact .cons (read _) (.of_failure (by simp [Exchange.failure?, other]))
  | deleted _ confirmed =>
    exact .cons (read _) (.cons rfl (confirmed.stopsAtFailure (asked _ _ rfl)))
  | vanished error _ missing confirmed =>
    have goesOn : ∀ earlier, (⟨.delete kind key, .error error⟩ : Exchange).failure? false
        earlier = none := fun _ => if_pos missing
    exact .cons (read _) (.cons (goesOn _) (confirmed.stopsAtFailure (asked _ _ rfl)))

theorem Provision.stopsAtFailure {desired : Managed kind}
    (unasked : ∀ exchange ∈ before, ¬exchange.About kind)
    (provision : Provision kind key desired exchanges events result) :
    StopsAtFailure true excused before exchanges (failureOf result) := by
  have first := not_concerns_of_unasked unasked key
  have read : ∀ live : Managed kind, live.metadata.isDeleting = false →
      (⟨.get kind key, .ok (some live)⟩ : Exchange).failure? true before = none := by
    intro live unmarked
    simp [Exchange.failure?, first, unmarked]
  cases provision with
  | unread error => exact .of_failure rfl
  | pending marked => exact .of_failure (by simp [Exchange.failure?, first, marked])
  | inSync unmarked _ => exact .cons (read _ unmarked) .nil_none
  | notCreated error => exact .cons rfl (.of_failure rfl)
  | created _ => exact .cons rfl (.cons rfl .nil_none)
  | notReplaced error unmarked _ => exact .cons (read _ unmarked) (.of_failure rfl)
  | replaced _ unmarked _ => exact .cons (read _ unmarked) (.cons rfl .nil_none)

theorem Confirmation.readsBack (confirmed : Confirmation kind key exchanges events result) :
    ReadsBack exchanges := by
  apply readsBack_of_no_deletion
  cases confirmed <;> simp [Exchange.deletes]

theorem Removal.readsBack (removal : Removal kind key exchanges events result) :
    ReadsBack exchanges := by
  have none : ReadsBack [] := readsBack_of_no_deletion (by simp)
  cases removal with
  | unread | absent => exact readsBack_cons none (by rintro _ _ _ ⟨⟩)
  | marked _ confirmed => exact readsBack_cons confirmed.readsBack (by rintro _ _ _ ⟨⟩)
  | refused error _ other =>
    refine readsBack_cons (readsBack_cons none ?_) (by rintro _ _ _ ⟨⟩)
    rintro _ _ _ ⟨⟩ missing
    rw [other] at missing
    cases missing
  | deleted _ confirmed =>
    refine readsBack_cons (readsBack_cons confirmed.readsBack ?_) (by rintro _ _ _ ⟨⟩)
    rintro _ _ _ ⟨⟩
  | vanished error _ missing confirmed =>
    refine readsBack_cons (readsBack_cons confirmed.readsBack ?_) (by rintro _ _ _ ⟨⟩)
    rintro _ _ _ ⟨⟩ -
    cases confirmed <;> exact ⟨_, [], rfl, by simp⟩

theorem Provision.readsBack {desired : Managed kind}
    (provision : Provision kind key desired exchanges events result) : ReadsBack exchanges := by
  apply readsBack_of_no_deletion
  cases provision <;> simp [Exchange.deletes]

variable {policy : Policy} {cluster : Cluster}

theorem Deletion.stopsAtFailure (unasked : ∀ exchange ∈ before, ¬exchange.About kind)
    (deletion : Deletion kind cluster exchanges events result) :
    StopsAtFailure false cluster.Lacks before exchanges (failureOf result) := by
  cases deletion with
  | unplaced unplaced =>
    rintro _ ⟨⟩
    exact lacks_of_keyFor unplaced
  | placed _ removal => exact removal.stopsAtFailure unasked

theorem Creation.stopsAtFailure (unasked : ∀ exchange ∈ before, ¬exchange.About kind)
    (creation : Creation kind policy cluster exchanges events result) :
    StopsAtFailure true cluster.Lacks before exchanges (failureOf result) := by
  cases creation with
  | unbuilt unbuilt =>
    rintro _ ⟨⟩
    exact lacks_of_desired unbuilt
  | built _ _ provision => exact provision.stopsAtFailure unasked

theorem Deletion.readsBack (deletion : Deletion kind cluster exchanges events result) :
    ReadsBack exchanges := by
  cases deletion with
  | unplaced => exact readsBack_of_no_deletion (by simp)
  | placed _ removal => exact removal.readsBack

theorem Creation.readsBack (creation : Creation kind policy cluster exchanges events result) :
    ReadsBack exchanges := by
  cases creation with
  | unbuilt => exact readsBack_of_no_deletion (by simp)
  | built _ _ provision => exact provision.readsBack

end Kind

namespace Orchestrator

variable {before exchanges : List Exchange} {events : List Event}
  {result : Except OperatorError RequeueHint}

section

variable {course : Kind → List Exchange → List Event → Except OperatorError RequeueHint → Prop}
  {kinds : List Kind}
  (about : ∀ kind exchanges events result, course kind exchanges events result →
    ∀ exchange ∈ exchanges, exchange.About kind)
  (distinct : kinds.Nodup) (turns : InTurn course kinds exchanges events result)
include about distinct turns

theorem InTurn.stopsAtFailure {creating : Bool} {excused : OperatorError → Prop}
    (stops : ∀ kind before exchanges events result,
      (∀ exchange ∈ before, ¬exchange.About kind) → course kind exchanges events result →
      StopsAtFailure creating excused before exchanges (failureOf result))
    (unasked : ∀ kind ∈ kinds, ∀ exchange ∈ before, ¬exchange.About kind) :
    StopsAtFailure creating excused before exchanges (failureOf result) := by
  -- None of the exchanges so far is about a kind that is still to come.
  induction turns generalizing before with
  | finished => exact .nil_none
  | failed here => exact stops _ _ _ _ _ (unasked _ List.mem_cons_self) here
  | passed here _ ih =>
    obtain ⟨notLater, distinct⟩ := List.nodup_cons.1 distinct
    refine .append (stops _ _ _ _ _ (unasked _ List.mem_cons_self) here) (ih distinct ?_)
    intro kind later exchange member isAbout
    rcases List.mem_append.1 member with old | new
    · exact unasked kind (List.mem_cons_of_mem _ later) exchange old isAbout
    · obtain rfl := isAbout.unique (about _ _ _ _ here exchange new)
      exact notLater later

theorem InTurn.readsBack
    (reads : ∀ kind exchanges events result, course kind exchanges events result →
      ReadsBack exchanges) :
    ReadsBack exchanges := by
  induction turns with
  | finished => exact readsBack_of_no_deletion (by simp)
  | failed here => exact reads _ _ _ _ here
  | passed here next ih =>
    obtain ⟨notLater, distinct⟩ := List.nodup_cons.1 distinct
    refine (reads _ _ _ _ here).append (ih distinct) ?_
    intro exchange early other late kind isAbout isAboutToo
    obtain rfl := isAbout.unique (about _ _ _ _ here exchange early)
    obtain ⟨later, among, aboutLater⟩ := next.about about other late
    exact notLater (isAboutToo.unique aboutLater ▸ among)

end

variable {policy : Policy} {cluster : Cluster} {creating : Bool}
  (course : Course policy cluster creating exchanges events result)
include course

theorem Course.stopsAtFailure (unasked : ∀ exchange ∈ before, ∀ kind, ¬exchange.About kind) :
    StopsAtFailure creating cluster.Lacks before exchanges (failureOf result) := by
  cases course with
  | deletions turns =>
    exact turns.stopsAtFailure (fun _ _ _ _ => Kind.Deletion.about) (by decide)
      (fun _ _ _ _ _ => Kind.Deletion.stopsAtFailure)
      fun kind _ exchange member => unasked exchange member kind
  | creations turns =>
    exact turns.stopsAtFailure (fun _ _ _ _ => Kind.Creation.about) (by decide)
      (fun _ _ _ _ _ => Kind.Creation.stopsAtFailure)
      fun kind _ exchange member => unasked exchange member kind

theorem Course.readsBack : ReadsBack exchanges := by
  cases course with
  | deletions turns =>
    exact turns.readsBack (fun _ _ _ _ => Kind.Deletion.about) (by decide)
      fun _ _ _ _ => Kind.Deletion.readsBack
  | creations turns =>
    exact turns.readsBack (fun _ _ _ _ => Kind.Creation.about) (by decide)
      fun _ _ _ _ => Kind.Creation.readsBack

end Orchestrator

namespace Reconcile

variable {exchanges : List Exchange} {subject : Subject} {policy : Policy}
  {result : Except OperatorError Action}

private theorem not_about_of_unmanaged {exchange : Exchange}
    (unmanaged : exchange.call.place? = none) (kind : Kind) : ¬exchange.About kind := by
  rintro ⟨key, concerns⟩
  exact absurd (concerns.symm.trans unmanaged) (by simp)

theorem Outline.readsBack {cluster : Cluster} (outline : Outline policy cluster exchanges) :
    ReadsBack exchanges := by
  have undeleted : ∀ apart : List Exchange, (∀ exchange ∈ apart, exchange.call.place? = none) →
      ReadsBack apart := by
    intro apart unmanaged
    apply readsBack_of_no_deletion
    intro exchange member kind
    by_contra deletes
    have writes := Exchange.writes_of_deletes (Bool.eq_true_of_not_eq_false deletes)
    exact not_about_of_unmanaged (unmanaged exchange member) kind (Exchange.about_of_writes writes)
  cases outline with
  | apart unmanaged => exact undeleted _ unmanaged
  | around before course after =>
    refine (undeleted _ before).append (course.readsBack.append (undeleted _ after) ?_) ?_
    · intro _ _ other late kind _
      exact not_about_of_unmanaged (after other late) kind
    · intro exchange early _ _ kind isAbout
      exact absurd isAbout (not_about_of_unmanaged (before exchange early) kind)

theorem Announcement.stopsAtFailure {key : ObjectKey} {phase : Phase} {needed creating : Bool}
    {excused : OperatorError → Prop} {before : List Exchange} {result : Except OperatorError Unit}
    (announcement : Announcement key phase needed exchanges result) :
    StopsAtFailure creating excused before exchanges (failureOf result) := by
  cases announcement with
  | unneeded => exact .nil_none
  | recorded => exact .cons rfl .nil_none
  | failed error => exact .of_failure rfl

private theorem unasked_of_announcement {key : ObjectKey} {phase : Phase} {needed : Bool}
    {result : Except OperatorError Unit}
    (announcement : Announcement key phase needed exchanges result) :
    ∀ exchange ∈ [] ++ exchanges, ∀ kind, ¬exchange.About kind :=
  fun exchange member => not_about_of_unmanaged (announcement.unmanaged exchange member)

theorem Application.stopsAtFailure (application : Application subject policy exchanges result) :
    StopsAtFailure subject.cluster.nfsEnabled subject.cluster.Lacks [] exchanges
      (failureOf result) := by
  cases application with
  | notBegun begun => exact begun.stopsAtFailure
  | notMade begun made =>
    exact begun.stopsAtFailure.append (made.stopsAtFailure (unasked_of_announcement begun))
  | notRecorded begun made closed | applied begun made closed =>
    exact begun.stopsAtFailure.append
      ((made.stopsAtFailure (unasked_of_announcement begun)).append closed.stopsAtFailure)

theorem Cleaning.stopsAtFailure (cleaning : Cleaning subject policy exchanges result) :
    StopsAtFailure false subject.cluster.Lacks [] exchanges (failureOf result) := by
  cases cleaning with
  | notBegun begun => exact begun.stopsAtFailure
  | notRemoved begun removed | cleaned begun removed =>
    exact begun.stopsAtFailure.append (removed.stopsAtFailure (unasked_of_announcement begun))

def creates (served : V1alpha1.Cluster) : Bool :=
  !served.metadata.isDeleting && served.toCluster.nfsEnabled

/-- What a pass over a cluster needs to be there before it asks for anything, and the error that
tells that it is not. -/
inductive Lacks (served : V1alpha1.Cluster) (settings : Option Settings) : OperatorError → Prop
  | ofCluster {error : OperatorError} (lacks : served.toCluster.Lacks error) :
      Lacks served settings error
  | settings (missing : settings = none) : Lacks served settings .missingState
  | name (missing : served.metadata.name = none) :
      Lacks served settings (.finalizer "object has no name")

theorem Course.stopsAtFailure {served : V1alpha1.Cluster} {settings : Option Settings}
    (carried : clusterFinalizer ∈ served.finalizers)
    (course : Course served settings exchanges result) :
    StopsAtFailure (creates served) (Lacks served settings) [] exchanges (failureOf result) := by
  have ofCluster : ∀ error, served.toCluster.Lacks error → Lacks served settings error :=
    fun _ => .ofCluster
  have cleans : served.metadata.isDeleting = true → creates served = false := by
    intro marked
    rw [creates, marked]
    rfl
  cases course with
  | unplaced missing =>
    rintro _ ⟨⟩
    exact .ofCluster (.namespace missing)
  | unsettled missing =>
    rintro _ ⟨⟩
    exact .settings missing
  | unnamed missing =>
    rintro _ ⟨⟩
    exact .name missing
  | released absent | notAdopted _ absent | adopted absent => exact absurd carried absent
  | applied _ _ _ unmarked application =>
    have applies : creates served = served.toCluster.nfsEnabled := by
      rw [creates, unmarked]
      rfl
    rw [applies]
    exact application.stopsAtFailure.mono ofCluster
  | notCleaned _ _ _ marked cleaning =>
    rw [cleans marked]
    exact cleaning.stopsAtFailure.mono ofCluster
  | notReleased error _ _ _ marked cleaning =>
    rw [cleans marked]
    exact (cleaning.stopsAtFailure.mono ofCluster).append (.of_failure rfl)
  | cleaned _ _ _ marked cleaning =>
    rw [cleans marked]
    exact (cleaning.stopsAtFailure.mono ofCluster).append (.cons rfl .nil_none)

inductive PatchFailure (message : String) : Exchange → Prop
  | added {key : ObjectKey} {present : List String} {error : OperatorError}
      (text : finalizerFailure "add" error = .finalizer message) :
      PatchFailure message ⟨.addFinalizer key present, .error error⟩
  | removed {key : ObjectKey} {position : Nat} {error : OperatorError}
      (text : finalizerFailure "remove" error = .finalizer message) :
      PatchFailure message ⟨.removeFinalizer key position, .error error⟩

theorem patchFailure_of_failure {creating : Bool} {before : List Exchange} {exchange : Exchange}
    {message : String} (fails : exchange.failure? creating before = some (.finalizer message)) :
    (∃ call, exchange = ⟨call, .error (.finalizer message)⟩) ∨ PatchFailure message exchange := by
  obtain ⟨call, answer⟩ := exchange
  have answered : ∀ {error : OperatorError}, some error = some (.finalizer message) →
      (⟨call, .error error⟩ : Exchange) = ⟨call, .error (.finalizer message)⟩ := by
    intro error same
    rw [Option.some.inj same]
  cases call with
  | addFinalizer =>
    rcases answer with error | _
    · exact .inr (.added (Option.some.inj fails))
    · cases fails
  | removeFinalizer =>
    rcases answer with error | _
    · exact .inr (.removed (Option.some.inj fails))
    · cases fails
  | create | replace | setPhase =>
    rcases answer with error | _
    · exact .inl ⟨_, answered fails⟩
    · cases fails
  | get =>
    rcases answer with error | (_ | live)
    · exact .inl ⟨_, answered fails⟩
    · cases fails
    · simp only [Exchange.failure?] at fails
      split at fails
      · cases fails
      · split at fails <;> cases fails
  | delete =>
    rcases answer with error | _
    · simp only [Exchange.failure?] at fails
      split at fails
      · cases fails
      · exact .inl ⟨_, answered fails⟩
    · cases fails

def retryDelay (controller : ControllerSettings) : OperatorError → Duration
  | .stillDeleting _ _ => controller.deletionPoll
  | .pendingDeletion _ _ => controller.pendingDeletionRequeue
  | _ => controller.errorRequeue

/-- A pass over a cluster stops at its first failure, with the error of that failure. -/
structure FailStop (served : V1alpha1.Cluster) (settings : Option Settings)
    (history : List Exchange) (result : Except OperatorError Action) : Prop where
  once : ∀ kind, history.countP (·.writes kind) ≤ 1
  /-- What fails the pass is the end of it. -/
  stops : ∀ before exchange after error, history = before ++ exchange :: after →
    exchange.failure? (creates served) before = some error → after = [] ∧ result = .error error
  readsBack : ReadsBack history
  /-- The error of a pass is that of its last exchange, unless the pass could not ask for all that
  it is to ask for. -/
  cause : ∀ error, result = .error error →
    (∃ before exchange, history = before ++ [exchange] ∧
      exchange.failure? (creates served) before = some error) ∨ Lacks served settings error
  retried : ∀ error, result = .error error →
    (errorPolicy error settings).2 =
      .requeueAfter (retryDelay (settings.getD {}).controller error)
  /-- Errors of the finalizer come from its patches and from clusters without a name only. -/
  finalizing : ∀ message, result = .error (.finalizer message) →
    (∀ call, ⟨call, .error (.finalizer message)⟩ ∉ history) →
    (∃ before exchange, history = before ++ [exchange] ∧ PatchFailure message exchange) ∨
      served.metadata.name = none

/-- However its calls are answered, a pass over a cluster that carries the finalizer stops at its
first failure. -/
theorem failStop_of_run {σ : Type} (answer : (call : Call) → σ → call.Answer × σ) (state : σ)
    {served : V1alpha1.Cluster} (carried : clusterFinalizer ∈ served.finalizers)
    (settings : Option Settings) :
    FailStop served settings ((cluster served settings).history answer state)
      ((cluster served settings).run answer state).result := by
  have course := course_of_ends ((cluster served settings).ends_run answer state)
  obtain ⟨policy, outline⟩ := course.outline
  have stops := course.stopsAtFailure carried
  have cause : ∀ error, ((cluster served settings).run answer state).result = .error error →
      (∃ before exchange, (cluster served settings).history answer state = before ++ [exchange] ∧
        exchange.failure? (creates served) before = some error) ∨
      Lacks served settings error := by
    intro error failed
    rw [failed] at stops
    exact StopsAtFailure.cause stops
  refine ⟨outline.countP_writes_le, ?_, outline.readsBack, cause, ?_, ?_⟩
  · intro before exchange after error split fails
    obtain ⟨last, ending⟩ := stops.of_split split fails
    refine ⟨last, ?_⟩
    cases ended : ((cluster served settings).run answer state).result with
    | ok action =>
      rw [ended] at ending
      cases ending
    | error other =>
      rw [ended] at ending
      rw [Option.some.inj ending]
  · intro error _
    cases error <;> rfl
  · intro message failed unanswered
    rcases cause _ failed with ⟨before, exchange, split, fails⟩ | lacks
    · rcases patchFailure_of_failure fails with ⟨call, rfl⟩ | patched
      · exact absurd (split ▸ List.mem_append_right _ (List.mem_singleton_self _)) (unanswered call)
      · exact .inl ⟨before, exchange, split, patched⟩
    · cases lacks with
      | ofCluster lacks => cases lacks
      | name missing => exact .inr missing

def conflict : OperatorError := .api ⟨"Failure", "already exists", "AlreadyExists", 409⟩

def withoutExporters : (call : Call) → Unit → call.Answer × Unit
  | .get _ _, _ => (.ok none, ())
  | .create .exporter _ _, _ => (.error conflict, ())
  | .create _ _ object, _ => (.ok object, ())
  | .replace _ _ object, _ => (.ok object, ())
  | .delete _ _, _ | .setPhase _ _, _ | .addFinalizer _ _, _ | .removeFinalizer _ _, _ =>
    (.ok (), ())

theorem failStop_of_conflict :
    ((cluster Session.servedSample (some {})).history withoutExporters ()).length = 4 ∧
    ((cluster Session.servedSample (some {})).run withoutExporters ()).result = .error conflict ∧
    FailStop Session.servedSample (some {})
      ((cluster Session.servedSample (some {})).history withoutExporters ())
      ((cluster Session.servedSample (some {})).run withoutExporters ()).result :=
  ⟨rfl, rfl, failStop_of_run withoutExporters () (by decide) (some {})⟩

end Reconcile

end CephExport
