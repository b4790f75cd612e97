import CephExport.Proofs.Pass.Conduct

/-!
The log of a pass over the resources of a cluster as an account of it. What the pass announces are
the changes that it asks for, one by one; a verdict on a deletion is the last thing that it says and
what it ends with; and where it deletes, it calls a resource gone just if the last reading found
none.
-/

set_option autoImplicit false
set_option relaxedAutoImplicit false

namespace CephExport

/-- The error says that a deletion is in the way or goes on. A pass finds that out; no store fails
with it. -/
def OperatorError.isVerdict : OperatorError → Bool
  | pendingDeletion .. | stillDeleting .. => true
  | _ => false

theorem Cluster.Lacks.isVerdict {cluster : Cluster} {error : OperatorError}
    (lacks : cluster.Lacks error) :
    error.isVerdict = false := by
  cases lacks <;> rfl

namespace Event

def isAnnouncement : Event → Bool
  | resource .creating .. | resource .updating .. | resource .deleting .. => true
  | _ => false

def verdict? : Event → Option OperatorError
  | resource .pendingDeletion kind name _ => some (.pendingDeletion kind name)
  | resource .waiting kind name _ => some (.stillDeleting kind name)
  | _ => none

theorem isVerdict_of_verdict? {event : Event} {error : OperatorError}
    (verdict : event.verdict? = some error) :
    error.isVerdict = true := by
  unfold verdict? at verdict
  split at verdict
  · exact Option.some.inj verdict ▸ rfl
  · exact Option.some.inj verdict ▸ rfl
  · cases verdict

end Event

def Call.announcement? : Call → Option Event
  | .create kind «namespace» object =>
    some (kind.event ⟨«namespace», object.metadata.displayName⟩ .creating)
  | .replace kind key _ => some (kind.event key .updating)
  | .delete kind key => some (kind.event key .deleting)
  | _ => none

theorem Kind.event_inj {kind other : Kind} {key place : ObjectKey} {what said : ResourceEvent} :
    kind.event key what = other.event place said ↔ kind = other ∧ key = place ∧ what = said := by
  constructor
  · intro same
    obtain ⟨whats, kinds, names, spaces⟩ := Event.resource.inj same
    refine ⟨name_injective kinds, ?_, whats⟩
    cases key
    cases place
    exact congrArg₂ _ spaces names
  · rintro ⟨rfl, rfl, rfl⟩
    rfl

namespace Exchange

/-- If the call fails, then for a reason of its own. -/
def FailsPlainly (exchange : Exchange) : Prop :=
  ∀ error, exchange.answer = .error error → error.isVerdict = false

def reads (kind : Kind) (exchange : Exchange) : Bool :=
  match exchange.call with
  | .get other _ => other == kind
  | _ => false

def lastReading? (kind : Kind) (exchanges : List Exchange) : Option Exchange :=
  (exchanges.filter (·.reads kind)).getLast?

variable {kind : Kind}

theorem about_of_reads {exchange : Exchange} (h : exchange.reads kind = true) :
    exchange.About kind := by
  obtain ⟨call, answer⟩ := exchange
  cases call with
  | get =>
    obtain rfl := beq_iff_eq.1 h
    exact ⟨_, rfl⟩
  | create | replace | delete | setPhase | addFinalizer | removeFinalizer => cases h

@[simp] theorem lastReading?_nil : lastReading? kind [] = none := rfl

theorem lastReading?_append (first second : List Exchange) :
    lastReading? kind (first ++ second) =
      (lastReading? kind second).or (lastReading? kind first) := by
  rw [lastReading?, List.filter_append, List.getLast?_append]
  rfl

theorem lastReading?_eq_none {exchanges : List Exchange}
    (none : ∀ exchange ∈ exchanges, ¬exchange.About kind) :
    lastReading? kind exchanges = .none := by
  rw [lastReading?, List.getLast?_eq_none_iff, List.filter_eq_nil_iff]
  exact fun exchange member reads => none exchange member (about_of_reads reads)

end Exchange

section

variable {α β : Type} {exchanges later : List Exchange} {events said : List Event}
  {result : Except OperatorError α} {event : Event} {error : OperatorError}

/-- The events of a pass are a true account of what it asked for and of how it ended. -/
structure Audited (exchanges : List Exchange) (events : List Event)
    (result : Except OperatorError α) : Prop where
  announced : events.filter (·.isAnnouncement) = exchanges.filterMap (·.call.announcement?)
  verdicts : ∀ error, error.isVerdict = true →
    (result = .error error ↔ ∃ event ∈ events, event.verdict? = some error)
  last : ∀ event ∈ events.dropLast, event.verdict? = none

namespace Audited

theorem nothing (value : α) : Audited [] [] (.ok value) := ⟨rfl, by simp, by simp⟩

theorem failure (plain : error.isVerdict = false) :
    Audited [] [] (.error error : Except OperatorError α) where
  announced := rfl
  verdicts other verdict := by
    refine ⟨fun same => ?_, by simp⟩
    rw [Except.error.inj same, verdict] at plain
    cases plain
  last := by simp

theorem verdict (unannounced : event.isAnnouncement = false) (ends : event.verdict? = some error) :
    Audited [] [event] (.error error : Except OperatorError α) where
  announced := by simp [unannounced]
  verdicts other _ := by simp [ends]
  last := by simp

theorem remarks (plain : ∀ event ∈ events, event.isAnnouncement = false ∧ event.verdict? = none)
    (value : α) :
    Audited [] events (.ok value) where
  announced := List.filter_eq_nil_iff.2 fun event member => by simp [plain event member]
  verdicts error _ := by simp +contextual [plain]
  last event member := (plain event ((List.dropLast_sublist events).subset member)).2

theorem remark (unannounced : event.isAnnouncement = false) (undecided : event.verdict? = none)
    (value : α) :
    Audited [] [event] (.ok value) :=
  remarks (List.forall_mem_singleton.2 ⟨unannounced, undecided⟩) value

theorem undecided {value : α} (audited : Audited exchanges events (.ok value)) :
    ∀ event ∈ events, event.verdict? = none := by
  intro event member
  cases verdict : event.verdict? with
  | none => rfl
  | some error =>
    have ends :=
      (audited.verdicts error (Event.isVerdict_of_verdict? verdict)).2 ⟨event, member, verdict⟩
    cases ends

theorem append {value : α} {result : Except OperatorError β}
    (first : Audited exchanges events (.ok value)) (second : Audited later said result) :
    Audited (exchanges ++ later) (events ++ said) result where
  announced := by
    rw [List.filter_append, List.filterMap_append, first.announced, second.announced]
  verdicts error verdict := by
    rw [second.verdicts error verdict]
    constructor
    · rintro ⟨event, member, ends⟩
      exact ⟨event, List.mem_append_right _ member, ends⟩
    · rintro ⟨event, member, ends⟩
      rcases List.mem_append.1 member with early | late
      · rw [first.undecided event early] at ends
        cases ends
      · exact ⟨event, late, ends⟩
  last event member := by
    cases said with
    | nil =>
      rw [List.append_nil] at member
      exact first.last event member
    | cons head rest =>
      rw [List.dropLast_append_of_ne_nil (List.cons_ne_nil _ _)] at member
      rcases List.mem_append.1 member with early | late
      · exact first.undecided event early
      · exact second.last event late

theorem read {kind : Kind} {key : ObjectKey} {answer : (Call.get kind key).Answer}
    (audited : Audited exchanges events result) :
    Audited (⟨.get kind key, answer⟩ :: exchanges) events result := by
  have single : Audited [⟨.get kind key, answer⟩] [] (.ok () : Except OperatorError Unit) :=
    ⟨rfl, by simp, by simp⟩
  exact single.append audited

theorem announce {call : Call} {answer : call.Answer} (announces : call.announcement? = some event)
    (audited : Audited exchanges events result) :
    Audited (⟨call, answer⟩ :: exchanges) (event :: events) result := by
  have single : Audited [⟨call, answer⟩] [event] (.ok () : Except OperatorError Unit) := by
    cases call <;> cases announces <;>
      exact ⟨rfl, by simp [Kind.event, Event.verdict?], by simp⟩
  exact single.append audited

end Audited

end

namespace Kind

variable {kind : Kind} {key : ObjectKey} {policy : Policy} {cluster : Cluster}
  {exchanges later : List Exchange} {events said : List Event}
  {result : Except OperatorError RequeueHint}

theorem Confirmation.audited (confirmed : Confirmation kind key exchanges events result)
    (plain : ∀ exchange ∈ exchanges, exchange.FailsPlainly) : Audited exchanges events result := by
  cases confirmed with
  | failed error => exact .read (.failure (List.forall_mem_singleton.1 plain error rfl))
  | gone => exact .read (.remark rfl rfl _)
  | present => exact .read (.verdict rfl rfl)

theorem Removal.audited (removal : Removal kind key exchanges events result)
    (plain : ∀ exchange ∈ exchanges, exchange.FailsPlainly) : Audited exchanges events result := by
  cases removal with
  | unread error => exact .read (.failure (List.forall_mem_singleton.1 plain error rfl))
  | absent => exact .read (.remark rfl rfl _)
  | marked _ confirmed => exact .read (confirmed.audited (List.forall_mem_cons.1 plain).2)
  | refused error =>
    have refusal := List.forall_mem_singleton.1 (List.forall_mem_cons.1 plain).2
    exact .read (.announce rfl (.failure (refusal error rfl)))
  | deleted _ confirmed =>
    have readBack := confirmed.audited (List.forall_mem_cons.1 (List.forall_mem_cons.1 plain).2).2
    exact .read (.announce rfl readBack)
  | vanished _ _ _ confirmed =>
    have readBack := confirmed.audited (List.forall_mem_cons.1 (List.forall_mem_cons.1 plain).2).2
    exact .read (.announce rfl ((Audited.remark rfl rfl ()).append readBack))

theorem forall_driftNotices (live desired : Managed kind) :
    ∀ event ∈ live.driftNotices desired, event.isAnnouncement = false ∧ event.verdict? = none := by
  intro event member
  unfold Managed.driftNotices at member
  split at member
  · cases member
  · cases kind with
    | blockPool | exporter => cases member
    | service =>
      simp only [Managed.bodyNotices] at member
      split at member
      · cases member
      · obtain rfl := List.mem_singleton.1 member
        exact ⟨rfl, rfl⟩

theorem Provision.audited {desired : Managed kind} (named : desired.metadata.displayName = key.name)
    (provision : Provision kind key desired exchanges events result)
    (plain : ∀ exchange ∈ exchanges, exchange.FailsPlainly) : Audited exchanges events result := by
  have creates : (Call.create kind key.namespace desired).announcement? =
      some (kind.event key .creating) := by
    rw [Call.announcement?, named]
  cases provision with
  | unread error => exact .read (.failure (List.forall_mem_singleton.1 plain error rfl))
  | pending => exact .read (.verdict rfl rfl)
  | @inSync live =>
    have compared := Audited.remarks (forall_driftNotices live desired) ()
    exact .read (compared.append (.remark rfl rfl _))
  | notCreated error =>
    have refusal := List.forall_mem_singleton.1 (List.forall_mem_cons.1 plain).2
    exact .read (.announce creates (.failure (refusal error rfl)))
  | created => exact .read (.announce creates (.nothing _))
  | @notReplaced live error =>
    have refusal := List.forall_mem_singleton.1 (List.forall_mem_cons.1 plain).2
    have compared := Audited.remarks (forall_driftNotices live desired) ()
    exact .read (compared.append (.announce rfl (.failure (refusal error rfl))))
  | @replaced live =>
    have compared := Audited.remarks (forall_driftNotices live desired) ()
    exact .read (compared.append (.announce rfl (.nothing _)))

theorem Deletion.audited (deletion : Deletion kind cluster exchanges events result)
    (plain : ∀ exchange ∈ exchanges, exchange.FailsPlainly) : Audited exchanges events result := by
  cases deletion with
  | unplaced unplaced => exact .failure (lacks_of_keyFor unplaced).isVerdict
  | placed _ removal => exact removal.audited plain

theorem Creation.audited (creation : Creation kind policy cluster exchanges events result)
    (plain : ∀ exchange ∈ exchanges, exchange.FailsPlainly) : Audited exchanges events result := by
  cases creation with
  | unbuilt unbuilt => exact .failure (lacks_of_desired unbuilt).isVerdict
  | built placed built provision =>
    exact provision.audited (displayName_of_desired placed built) plain

def CalledGone (kind : Kind) (key : ObjectKey) (events : List Event) : Prop :=
  kind.event key .notFound ∈ events ∨ kind.event key .deleted ∈ events

/-- The log calls just that resource of a kind gone whose reading was the last of the kind and found
none. -/
def TellsAbsence (kind : Kind) (exchanges : List Exchange) (events : List Event) : Prop :=
  ∀ key, kind.CalledGone key events ↔
    Exchange.lastReading? kind exchanges = some ⟨.get kind key, .ok none⟩

theorem calledGone_append_iff :
    kind.CalledGone key (events ++ said) ↔
      kind.CalledGone key events ∨ kind.CalledGone key said := by
  rw [CalledGone, List.mem_append, List.mem_append, or_or_or_comm]
  rfl

theorem tellsAbsence_nil : kind.TellsAbsence [] [] := by
  simp [TellsAbsence, CalledGone]

theorem TellsAbsence.append (first : kind.TellsAbsence exchanges events)
    (second : kind.TellsAbsence later said)
    (apart : Exchange.lastReading? kind exchanges = none ∨
      Exchange.lastReading? kind later = none) :
    kind.TellsAbsence (exchanges ++ later) (events ++ said) := by
  intro key
  rw [calledGone_append_iff, first key, second key, Exchange.lastReading?_append]
  rcases apart with none | none
  · simp [none]
  · simp [none]

theorem TellsAbsence.after (second : kind.TellsAbsence later said)
    (reads : Exchange.lastReading? kind later ≠ none) (silent : ∀ key, ¬kind.CalledGone key events)
    (exchanges : List Exchange) :
    kind.TellsAbsence (exchanges ++ later) (events ++ said) := by
  intro key
  obtain ⟨last, isLast⟩ := Option.ne_none_iff_exists'.1 reads
  rw [calledGone_append_iff, second key, Exchange.lastReading?_append, isLast]
  simp [silent key]

theorem Confirmation.says (confirmed : Confirmation kind key exchanges events result) :
    ∀ event ∈ events, ∃ what, event = kind.event key what := by
  cases confirmed with
  | failed => exact fun _ member => nomatch member
  | gone | present => exact List.forall_mem_singleton.2 ⟨_, rfl⟩

theorem Removal.says (removal : Removal kind key exchanges events result) :
    ∀ event ∈ events, ∃ what, event = kind.event key what := by
  cases removal with
  | unread => exact fun _ member => nomatch member
  | absent | refused => exact List.forall_mem_singleton.2 ⟨_, rfl⟩
  | marked _ confirmed => exact confirmed.says
  | deleted _ confirmed => exact List.forall_mem_cons.2 ⟨⟨_, rfl⟩, confirmed.says⟩
  | vanished _ _ _ confirmed =>
    exact List.forall_mem_cons.2 ⟨⟨_, rfl⟩, List.forall_mem_cons.2 ⟨⟨_, rfl⟩, confirmed.says⟩⟩

theorem Confirmation.tellsAbsence (confirmed : Confirmation kind key exchanges events result) :
    kind.TellsAbsence exchanges events ∧ Exchange.lastReading? kind exchanges ≠ none := by
  cases confirmed <;>
    simp [TellsAbsence, CalledGone, event_inj, Exchange.lastReading?, Exchange.reads, eq_comm]

theorem Removal.tellsAbsence (removal : Removal kind key exchanges events result) :
    kind.TellsAbsence exchanges events := by
  -- A removal that gets as far as a confirmation reads a second time, and only that reading counts.
  have silent : ∀ place, ¬kind.CalledGone place [] := by
    simp [CalledGone]
  have deleting : ∀ place, ¬kind.CalledGone place [kind.event key .deleting] := by
    simp [CalledGone, event_inj]
  have vanished : ∀ place,
      ¬kind.CalledGone place [kind.event key .deleting, kind.event key .alreadyDeleted] := by
    simp [CalledGone, event_inj]
  cases removal with
  | unread | absent | refused =>
    simp [TellsAbsence, CalledGone, event_inj, Exchange.lastReading?, Exchange.reads, eq_comm]
  | marked _ confirmed =>
    obtain ⟨tells, reads⟩ := confirmed.tellsAbsence
    exact tells.after reads silent [_]
  | deleted _ confirmed =>
    obtain ⟨tells, reads⟩ := confirmed.tellsAbsence
    exact tells.after reads deleting [_, _]
  | vanished _ _ _ confirmed =>
    obtain ⟨tells, reads⟩ := confirmed.tellsAbsence
    exact tells.after reads vanished [_, _]

theorem Deletion.tellsAbsence (deletion : Deletion kind cluster exchanges events result)
    (asked : Kind) :
    asked.TellsAbsence exchanges events := by
  cases deletion with
  | unplaced => exact tellsAbsence_nil
  | placed _ removal =>
    by_cases same : asked = kind
    · exact same ▸ removal.tellsAbsence
    · -- Of another kind the removal neither reads nor says anything.
      have unread : Exchange.lastReading? asked exchanges = none :=
        Exchange.lastReading?_eq_none fun exchange member isAbout =>
          same (isAbout.unique (removal.concerns exchange member).about)
      have silent : ∀ place what, asked.event place what ∉ events := by
        intro place what member
        obtain ⟨said, isSaid⟩ := removal.says _ member
        exact same (event_inj.1 isSaid).1
      intro place
      rw [unread]
      simp [CalledGone, silent]

end Kind

namespace Orchestrator

variable {policy : Policy} {cluster : Cluster} {exchanges : List Exchange} {events : List Event}
  {result : Except OperatorError RequeueHint} {kinds : List Kind}
  {course : Kind → List Exchange → List Event → Except OperatorError RequeueHint → Prop}

theorem InTurn.audited (each : ∀ kind exchanges events result, course kind exchanges events result →
      (∀ exchange ∈ exchanges, exchange.FailsPlainly) → Audited exchanges events result)
    (turns : InTurn course kinds exchanges events result)
    (plain : ∀ exchange ∈ exchanges, exchange.FailsPlainly) :
    Audited exchanges events result := by
  induction turns with
  | finished => exact .nothing _
  | failed here => exact each _ _ _ _ here plain
  | passed here _ ih =>
    obtain ⟨early, late⟩ := List.forall_mem_append.1 plain
    exact (each _ _ _ _ here early).append (ih late)

/-- As each kind has a turn of its own, its last reading is in that turn. -/
theorem InTurn.tellsAbsence (about : ∀ kind exchanges events result,
      course kind exchanges events result → ∀ exchange ∈ exchanges, exchange.About kind)
    (each : ∀ kind exchanges events result, course kind exchanges events result →
      ∀ asked : Kind, asked.TellsAbsence exchanges events)
    (distinct : kinds.Nodup) (turns : InTurn course kinds exchanges events result) (asked : Kind) :
    asked.TellsAbsence exchanges events := by
  induction turns with
  | finished => exact Kind.tellsAbsence_nil
  | failed here => exact each _ _ _ _ here asked
  | @passed kind _ _ _ _ _ _ here next ih =>
    obtain ⟨notLater, distinct⟩ := List.nodup_cons.1 distinct
    -- A kind is read either in the first turn or later on, so one of the two parts is silent on it.
    refine (each _ _ _ _ here asked).append (ih distinct) ?_
    by_cases same : asked = kind
    · refine .inr (Exchange.lastReading?_eq_none fun exchange member isAbout => ?_)
      obtain ⟨other, among, isOther⟩ := next.about about exchange member
      exact notLater (same ▸ isAbout.unique isOther ▸ among)
    · refine .inl (Exchange.lastReading?_eq_none fun exchange member isAbout => ?_)
      exact same (isAbout.unique (about _ _ _ _ here exchange member))

/-- The log of a pass over the resources of a cluster is a true account of it, down to what is gone
where it deletes. -/
structure Faithful (creating : Bool) (exchanges : List Exchange) (events : List Event)
    (result : Except OperatorError RequeueHint) : Prop extends Audited exchanges events result where
  absences : creating = false → ∀ kind : Kind, kind.TellsAbsence exchanges events

theorem Course.faithful {creating : Bool}
    (course : Course policy cluster creating exchanges events result)
    (plain : ∀ exchange ∈ exchanges, exchange.FailsPlainly) :
    Faithful creating exchanges events result := by
  cases course with
  | deletions turns =>
    have tells := turns.tellsAbsence (fun _ _ _ _ => Kind.Deletion.about)
      (fun _ _ _ _ => Kind.Deletion.tellsAbsence)
      (by decide)
    exact ⟨turns.audited (fun _ _ _ _ => Kind.Deletion.audited) plain, fun _ => tells⟩
  | creations turns =>
    exact ⟨turns.audited (fun _ _ _ _ => Kind.Creation.audited) plain, nofun⟩

/-- Whatever the stores answer, and however they fail, the log of a pass over the resources of a
cluster can be taken for what the pass did. -/
theorem run_faithful {σ : Type} (policy : Policy) (cluster : Cluster)
    (answer : (call : Call) → σ → call.Answer × σ)
    (plain : ∀ call state error, (answer call state).1 = .error error → error.isVerdict = false)
    (state : σ) :
    Faithful cluster.nfsEnabled ((ensureCreated (nfs policy) cluster).history answer state)
      ((ensureCreated (nfs policy) cluster).run answer state).events
      ((ensureCreated (nfs policy) cluster).run answer state).result ∧
    Faithful false ((ensureDeleted (nfs policy) cluster).history answer state)
      ((ensureDeleted (nfs policy) cluster).run answer state).events
      ((ensureDeleted (nfs policy) cluster).run answer state).result := by
  have fails : ∀ pass : Pass RequeueHint, ∀ exchange ∈ pass.history answer state,
      exchange.FailsPlainly := by
    intro pass exchange member error failed
    obtain ⟨served, answered⟩ := pass.exists_of_mem_history member
    exact plain exchange.call served error (answered ▸ failed)
  exact ⟨(course_of_ensureCreated (Pass.ends_run answer _ state)).faithful (fails _),
    (course_of_ensureDeleted (Pass.ends_run answer _ state)).faithful (fails _)⟩

def withForgottenService : (call : Call) → Unit → call.Answer × Unit
  | .delete _ key, _ => (.error (.notFound key.name), ())
  | call, _ => withLastingService call ()

theorem withForgottenService_plain (call : Call) (state : Unit) (error : OperatorError)
    (failed : (withForgottenService call state).1 = .error error) : error.isVerdict = false := by
  cases call with
  | delete =>
    obtain rfl := Except.error.inj failed
    rfl
  | get kind => cases kind <;> cases failed
  | create | replace | setPhase | addFinalizer | removeFinalizer => cases failed

theorem forgottenService_faithful :
    ((ensureDeleted (nfs ⟨V1alpha1.Cluster.scheme, {}⟩) retired).run
        withForgottenService ()).events =
      [.resource .deleting "Service" "ceph-cephnfs-service" "rook",
        .resource .alreadyDeleted "Service" "ceph-cephnfs-service" "rook",
        .resource .waiting "Service" "ceph-cephnfs-service" "rook"] ∧
    Faithful false
      ((ensureDeleted (nfs ⟨V1alpha1.Cluster.scheme, {}⟩) retired).history
        withForgottenService ())
      ((ensureDeleted (nfs ⟨V1alpha1.Cluster.scheme, {}⟩) retired).run
        withForgottenService ()).events
      ((ensureDeleted (nfs ⟨V1alpha1.Cluster.scheme, {}⟩) retired).run
        withForgottenService ()).result :=
  ⟨rfl, (run_faithful ⟨V1alpha1.Cluster.scheme, {}⟩ retired withForgottenService
    withForgottenService_plain ()).2⟩

end Orchestrator

end CephExport
