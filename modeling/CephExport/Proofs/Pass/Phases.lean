import CephExport.Proofs.Pass.Reconciliation

/-!
The phases that a pass records in the status of its cluster are true: it is only called ready after
the pass has found all its resources as they are wanted, or has made them so, and no phase is
recorded that is there already.
-/

set_option autoImplicit false
set_option relaxedAutoImplicit false

namespace CephExport

namespace Exchange

def LastAbout (kind : Kind) (exchanges : List Exchange) (exchange : Exchange) : Prop :=
  exchange.About kind ∧ ∃ earlier later, exchanges = earlier ++ exchange :: later ∧
    ∀ other ∈ later, ¬other.About kind

/-- The exchange shows that a wanted object is in the store: it was read unmarked and does not
differ, or it was created, or replaced by what it is merged into while it was unmarked. -/
inductive Provides {kind : Kind} (key : ObjectKey) (desired : Managed kind) : Exchange → Prop
  | found {live : Managed kind} (unmarked : live.metadata.isDeleting = false)
      (same : live.drifted desired = false) :
      Provides key desired ⟨.get kind key, .ok (some live)⟩
  | created (reply : Managed kind) :
      Provides key desired ⟨.create kind key.namespace desired, .ok reply⟩
  | replaced {live : Managed kind} (reply : Managed kind)
      (unmarked : live.metadata.isDeleting = false) :
      Provides key desired ⟨.replace kind key (live.merge desired), .ok reply⟩

variable {kind : Kind} {first second : List Exchange} {exchange : Exchange}

theorem LastAbout.before (last : LastAbout kind second exchange) (first : List Exchange) :
    LastAbout kind (first ++ second) exchange := by
  obtain ⟨isAbout, earlier, later, rfl, none⟩ := last
  exact ⟨isAbout, first ++ earlier, later, (List.append_assoc first earlier _).symm, none⟩

theorem LastAbout.after (last : LastAbout kind first exchange)
    (none : ∀ other ∈ second, ¬other.About kind) : LastAbout kind (first ++ second) exchange := by
  obtain ⟨isAbout, earlier, later, rfl, unasked⟩ := last
  exact ⟨isAbout, earlier, later ++ second, List.append_assoc earlier (exchange :: later) second,
    List.forall_mem_append.2 ⟨unasked, none⟩⟩

theorem LastAbout.cons (last : LastAbout kind second exchange) (other : Exchange) :
    LastAbout kind (other :: second) exchange := last.before [other]

theorem lastAbout_singleton (isAbout : exchange.About kind) :
    LastAbout kind [exchange] exchange :=
  ⟨isAbout, [], [], rfl, fun _ member => absurd member List.not_mem_nil⟩

end Exchange

namespace Kind

/-- What the last exchange about a kind must show for the cluster to be called ready. -/
inductive Witnessed (kind : Kind) (policy : Policy) (cluster : Cluster) : Exchange → Prop
  | provided {parent : ObjectKey} {desired : Managed kind} {exchange : Exchange}
      (wanted : kind.shouldExist cluster = true) (placed : cluster.IsAt parent)
      (built : kind.desired cluster policy.scheme policy.settings = .ok desired)
      (provides : exchange.Provides (kind.home parent) desired) :
      Witnessed kind policy cluster exchange
  | absent {parent : ObjectKey} (unwanted : kind.shouldExist cluster = false)
      (placed : cluster.IsAt parent) :
      Witnessed kind policy cluster ⟨.get kind (kind.home parent), .ok none⟩

variable {kind : Kind} {key : ObjectKey} {policy : Policy} {cluster : Cluster}
  {exchanges : List Exchange} {events : List Event} {hint : RequeueHint}

theorem Confirmation.lastAbout (confirmed : Confirmation kind key exchanges events (.ok hint)) :
    Exchange.LastAbout kind exchanges ⟨.get kind key, .ok none⟩ := by
  cases confirmed with
  | gone => exact Exchange.lastAbout_singleton ⟨key, rfl⟩

theorem Removal.lastAbout (removal : Removal kind key exchanges events (.ok hint)) :
    Exchange.LastAbout kind exchanges ⟨.get kind key, .ok none⟩ := by
  cases removal with
  | absent => exact Exchange.lastAbout_singleton ⟨key, rfl⟩
  | marked _ confirmed => exact confirmed.lastAbout.cons _
  | deleted _ confirmed | vanished _ _ _ confirmed => exact (confirmed.lastAbout.cons _).cons _

theorem Provision.lastAbout {desired : Managed kind}
    (provision : Provision kind key desired exchanges events (.ok hint)) :
    ∃ exchange, Exchange.LastAbout kind exchanges exchange ∧ exchange.Provides key desired := by
  cases provision with
  | @inSync live unmarked same =>
    have isAbout : (⟨.get kind key, .ok (some live)⟩ : Exchange).About kind := ⟨key, rfl⟩
    exact ⟨_, Exchange.lastAbout_singleton isAbout, .found unmarked same⟩
  | created reply =>
    have isAbout : (⟨.create kind key.namespace desired, .ok reply⟩ : Exchange).About kind :=
      ⟨⟨key.namespace, desired.metadata.displayName⟩, rfl⟩
    exact ⟨_, (Exchange.lastAbout_singleton isAbout).cons _, .created reply⟩
  | @replaced live reply unmarked _ =>
    have isAbout : (⟨.replace kind key (live.merge desired), .ok reply⟩ : Exchange).About kind :=
      ⟨key, rfl⟩
    exact ⟨_, (Exchange.lastAbout_singleton isAbout).cons _, .replaced reply unmarked⟩

theorem Deletion.witnessed (unwanted : kind.shouldExist cluster = false)
    (deletion : Deletion kind cluster exchanges events (.ok hint)) :
    ∃ exchange, Exchange.LastAbout kind exchanges exchange ∧
      Witnessed kind policy cluster exchange := by
  cases deletion with
  | placed placed removal => exact ⟨_, removal.lastAbout, .absent unwanted placed⟩

theorem Creation.witnessed (wanted : kind.shouldExist cluster = true)
    (creation : Creation kind policy cluster exchanges events (.ok hint)) :
    ∃ exchange, Exchange.LastAbout kind exchanges exchange ∧
      Witnessed kind policy cluster exchange := by
  cases creation with
  | built placed built provision =>
    obtain ⟨exchange, last, provides⟩ := provision.lastAbout
    exact ⟨exchange, last, .provided wanted placed built provides⟩

end Kind

namespace Orchestrator

variable {policy : Policy} {cluster : Cluster} {exchanges : List Exchange} {events : List Event}
  {hint : RequeueHint}

/-- What each turn shows at its end, all turns show at theirs: the later ones are about other
kinds. -/
theorem InTurn.witnessed
    {course : Kind → List Exchange → List Event → Except OperatorError RequeueHint → Prop}
    {shows : Kind → Exchange → Prop} {kinds : List Kind}
    (turns : InTurn course kinds exchanges events (.ok hint)) (distinct : kinds.Nodup)
    (about : ∀ kind exchanges events result, course kind exchanges events result →
      ∀ exchange ∈ exchanges, exchange.About kind)
    (here : ∀ kind exchanges events hint, course kind exchanges events (.ok hint) →
      ∃ exchange, Exchange.LastAbout kind exchanges exchange ∧ shows kind exchange) :
    ∀ kind ∈ kinds, ∃ exchange, Exchange.LastAbout kind exchanges exchange ∧
      shows kind exchange := by
  generalize ending : (Except.ok hint : Except OperatorError RequeueHint) = result at turns
  induction turns with
  | finished => exact fun _ member => absurd member List.not_mem_nil
  | failed => cases ending
  | @passed head rest first second _ _ _ turn next ih =>
    obtain ⟨notLater, distinct⟩ := List.nodup_cons.1 distinct
    intro kind among
    rcases List.mem_cons.1 among with rfl | later
    · obtain ⟨exchange, last, shown⟩ := here _ _ _ _ turn
      refine ⟨exchange, last.after ?_, shown⟩
      intro other member isAbout
      obtain ⟨kind', among', isAbout'⟩ := next.about about other member
      exact notLater (isAbout.unique isAbout' ▸ among')
    · obtain ⟨exchange, last, shown⟩ := ih distinct ending kind later
      exact ⟨exchange, last.before _, shown⟩

theorem Course.witnessed
    (course : Course policy cluster cluster.nfsEnabled exchanges events (.ok hint)) (kind : Kind) :
    ∃ exchange, Exchange.LastAbout kind exchanges exchange ∧
      kind.Witnessed policy cluster exchange := by
  generalize creating : cluster.nfsEnabled = created at course
  cases course with
  | deletions turns =>
    have shown : ∀ kind ∈ deletionOrder, ∃ exchange, Exchange.LastAbout kind exchanges exchange ∧
        kind.Witnessed policy cluster exchange :=
      turns.witnessed (by decide) (fun _ _ _ _ => Kind.Deletion.about)
        fun _ _ _ _ => Kind.Deletion.witnessed creating
    exact shown kind (mem_deletionOrder kind)
  | creations turns =>
    have shown : ∀ kind ∈ creationOrder, ∃ exchange, Exchange.LastAbout kind exchanges exchange ∧
        kind.Witnessed policy cluster exchange :=
      turns.witnessed (by decide) (fun _ _ _ _ => Kind.Creation.about)
        fun _ _ _ _ => Kind.Creation.witnessed creating
    exact shown kind (mem_creationOrder kind)

end Orchestrator

namespace Reconcile

def patches (exchanges : List Exchange) : List Phase :=
  exchanges.filterMap fun exchange => match exchange.call with
    | .setPhase _ phase => some phase
    | _ => none

/-- The phase that a status shows after some exchanges. -/
def phaseAfter (before : Option String) (exchanges : List Exchange) : Option String :=
  exchanges.foldl (fun shown exchange => match exchange with
    | ⟨.setPhase _ phase, .ok _⟩ => some phase.text
    | _ => shown) before

theorem patches_append (first second : List Exchange) :
    patches (first ++ second) = patches first ++ patches second :=
  List.filterMap_append

theorem phaseAfter_append (before : Option String) (first second : List Exchange) :
    phaseAfter before (first ++ second) = phaseAfter (phaseAfter before first) second :=
  List.foldl_append

def Unphased (exchanges : List Exchange) : Prop :=
  ∀ exchange ∈ exchanges, ∀ key phase, exchange.call ≠ .setPhase key phase

section

variable {exchanges : List Exchange}

theorem unphased_of_course {policy : Policy} {cluster : Cluster} {creating : Bool}
    {events : List Event} {result : Except OperatorError RequeueHint}
    (course : Orchestrator.Course policy cluster creating exchanges events result) :
    Unphased exchanges := by
  rintro ⟨call, answer⟩ member key phase rfl
  obtain ⟨kind, place, concerns⟩ := course.about _ member
  cases concerns

theorem unphased_singleton {exchange : Exchange}
    (other : ∀ key phase, exchange.call ≠ .setPhase key phase) : Unphased [exchange] :=
  List.forall_mem_singleton.2 other

theorem Unphased.patches_eq (unphased : Unphased exchanges) : patches exchanges = [] := by
  rw [patches, List.filterMap_eq_nil_iff]
  rintro ⟨call, answer⟩ member
  cases call with
  | setPhase key phase => exact absurd rfl (unphased _ member key phase)
  | _ => rfl

theorem Unphased.phaseAfter_eq (unphased : Unphased exchanges) (before : Option String) :
    phaseAfter before exchanges = before := by
  induction exchanges with
  | nil => rfl
  | cons exchange rest ih =>
    obtain ⟨here, later⟩ := List.forall_mem_cons.1 unphased
    obtain ⟨call, answer⟩ := exchange
    rw [phaseAfter, List.foldl_cons]
    cases call with
    | setPhase key phase => exact absurd rfl (here key phase)
    | _ => exact ih later

theorem Unphased.ne_split (unphased : Unphased exchanges) {before after : List Exchange}
    {key : ObjectKey} {phase : Phase} {answer : (Call.setPhase key phase).Answer} :
    exchanges ≠ before ++ ⟨.setPhase key phase, answer⟩ :: after := by
  rintro rfl
  exact unphased ⟨.setPhase key phase, answer⟩ (by simp) key phase rfl

end

section

variable {key : ObjectKey} {phase : Phase} {needed : Bool} {exchanges : List Exchange}

theorem Announcement.patches_eq {result : Except OperatorError Unit}
    (announcement : Announcement key phase needed exchanges result) :
    patches exchanges = if needed then [phase] else [] := by
  cases announcement <;> rfl

theorem Announcement.phaseAfter_eq (before : Option String)
    (announcement : Announcement key phase needed exchanges (.ok ())) :
    phaseAfter before exchanges = if needed then some phase.text else before := by
  cases announcement <;> rfl

theorem Announcement.of_split {result : Except OperatorError Unit}
    (announcement : Announcement key phase needed exchanges result) {before after : List Exchange}
    {other : ObjectKey} {shown : Phase} {answer : (Call.setPhase other shown).Answer}
    (split : exchanges = before ++ ⟨.setPhase other shown, answer⟩ :: after) :
    other = key ∧ shown = phase ∧ needed = true ∧ before = [] ∧ after = [] := by
  cases announcement with
  | unneeded => simp at split
  | recorded | failed =>
    rcases List.singleton_eq_append_iff.1 split with ⟨rfl, same⟩ | ⟨-, absurd⟩
    · cases same
      exact ⟨rfl, rfl, rfl, rfl, rfl⟩
    · cases absurd

private theorem patch_after_announcement {opening rest before after : List Exchange}
    {other : ObjectKey} {shown : Phase} {answer : (Call.setPhase other shown).Answer}
    {result : Except OperatorError Unit} (begun : Announcement key phase needed opening result)
    (split : opening ++ rest = before ++ ⟨.setPhase other shown, answer⟩ :: after) :
    (other = key ∧ shown = phase ∧ needed = true ∧ before = []) ∨
      ∃ later, rest = later ++ ⟨.setPhase other shown, answer⟩ :: after ∧
        before = opening ++ later := by
  rcases Exchange.split_append split with ⟨_, split, -⟩ | late
  · obtain ⟨here, same, wanted, first, -⟩ := begun.of_split split
    exact .inl ⟨here, same, wanted, first⟩
  · exact .inr late

end

variable {subject : Subject} {policy : Policy} {exchanges before after : List Exchange}
  {key : ObjectKey} {phase : Phase} {answer : (Call.setPhase key phase).Answer}
  {result : Except OperatorError Action}

/-- The places in an application where a phase is recorded. -/
theorem Application.patch_cases (application : Application subject policy exchanges result)
    (split : exchanges = before ++ ⟨.setPhase key phase, answer⟩ :: after) :
    key = subject.key ∧
    ((phase = .progressing ∧ subject.cluster.status.isNone = true ∧ before = []) ∨
      (phase = .ready ∧ needsPhase subject.cluster.status .ready = true ∧ after = [] ∧
        ∃ opening middle events hint, before = opening ++ middle ∧
          Announcement subject.key .progressing subject.cluster.status.isNone opening (.ok ()) ∧
          Orchestrator.Course policy subject.cluster subject.cluster.nfsEnabled middle events
            (.ok hint))) := by
  -- A patch is the one at the beginning or the one at the end; between them are no patches.
  cases application with
  | notBegun begun =>
    obtain ⟨here, same, wanted, first, -⟩ := begun.of_split split
    exact ⟨here, .inl ⟨same, wanted, first⟩⟩
  | notMade begun made =>
    rcases patch_after_announcement begun split with
      ⟨here, same, wanted, first⟩ | ⟨_, within, -⟩
    · exact ⟨here, .inl ⟨same, wanted, first⟩⟩
    · exact absurd within (unphased_of_course made).ne_split
  | notRecorded begun made closed | applied begun made closed =>
    rcases patch_after_announcement begun split with
      ⟨here, same, wanted, first⟩ | ⟨later, afterOpening, rfl⟩
    · exact ⟨here, .inl ⟨same, wanted, first⟩⟩
    · rcases Exchange.split_append afterOpening with ⟨_, within, -⟩ | ⟨rest, atEnd, rfl⟩
      · exact absurd within (unphased_of_course made).ne_split
      · obtain ⟨here, same, wanted, rfl, last⟩ := closed.of_split atEnd
        rw [List.append_nil]
        exact ⟨here, .inr ⟨same, wanted, last, _, _, _, _, rfl, begun, made⟩⟩

theorem Cleaning.patch_cases (cleaning : Cleaning subject policy exchanges result)
    (split : exchanges = before ++ ⟨.setPhase key phase, answer⟩ :: after) :
    key = subject.key ∧ phase = .deleting ∧
      needsPhase subject.cluster.status .deleting = true ∧ before = [] := by
  cases cleaning with
  | notBegun begun =>
    obtain ⟨here, same, wanted, first, -⟩ := begun.of_split split
    exact ⟨here, same, wanted, first⟩
  | notRemoved begun removed | cleaned begun removed =>
    rcases patch_after_announcement begun split with first | ⟨_, within, -⟩
    · exact first
    · exact absurd within (unphased_of_course removed).ne_split

private theorem patches_prefix_of_announcement {status : Option ClusterStatus} {key : ObjectKey}
    {opening rest : List Exchange} {result : Except OperatorError Unit}
    (begun : Announcement key .progressing status.isNone opening result)
    (later : patches rest <+: [.ready]) :
    patches (opening ++ rest) <+: if status.isNone then [.progressing, .ready] else [.ready] := by
  rw [patches_append, begun.patches_eq]
  split
  · exact (List.prefix_append_right_inj [.progressing]).2 later
  · exact later

theorem Application.patches_prefix (application : Application subject policy exchanges result) :
    patches exchanges <+:
      if subject.cluster.status.isNone then [.progressing, .ready] else [.ready] := by
  cases application with
  | notBegun begun =>
    rw [← List.append_nil exchanges]
    exact patches_prefix_of_announcement begun List.nil_prefix
  | notMade begun made =>
    apply patches_prefix_of_announcement begun
    rw [(unphased_of_course made).patches_eq]
    exact List.nil_prefix
  | notRecorded begun made closed | applied begun made closed =>
    apply patches_prefix_of_announcement begun
    rw [patches_append, (unphased_of_course made).patches_eq, closed.patches_eq]
    split
    · exact List.prefix_rfl
    · exact List.nil_prefix

theorem Cleaning.patches_prefix (cleaning : Cleaning subject policy exchanges result) :
    patches exchanges <+: [.deleting] := by
  have opened : ∀ {opening : List Exchange} {result : Except OperatorError Unit},
      Announcement subject.key .deleting (needsPhase subject.cluster.status .deleting) opening
        result → patches opening <+: [.deleting] := by
    intro opening result begun
    rw [begun.patches_eq]
    split
    · exact List.prefix_rfl
    · exact List.nil_prefix
  cases cleaning with
  | notBegun begun => exact opened begun
  | notRemoved begun removed | cleaned begun removed =>
    rw [patches_append, (unphased_of_course removed).patches_eq, List.append_nil]
    exact opened begun

private theorem shown_of_unneeded {status : Option ClusterStatus} {phase : Phase}
    (unneeded : needsPhase status phase = false) :
    status.map (·.phase) = some phase.text := by
  cases status with
  | none => cases unneeded
  | some status => simpa [needsPhase] using unneeded

private theorem not_shown_of_needed {status : Option ClusterStatus} {phase : Phase}
    (needed : needsPhase status phase = true) : status.map (·.phase) ≠ some phase.text := by
  cases status with
  | none => simp
  | some status => simpa [needsPhase] using needed

theorem Application.shown {action : Action}
    (application : Application subject policy exchanges (.ok action)) :
    phaseAfter (subject.cluster.status.map (·.phase)) exchanges = some Phase.ready.text := by
  cases application with
  | applied begun made closed =>
    rw [phaseAfter_append, phaseAfter_append, (unphased_of_course made).phaseAfter_eq,
      closed.phaseAfter_eq,
      begun.phaseAfter_eq]
    split
    · rfl
    · have shown := shown_of_unneeded (Bool.eq_false_iff.2 ‹_›)
      split
      · rename_i missing
        rw [Option.isNone_iff_eq_none.1 missing] at shown
        cases shown
      · exact shown

theorem Cleaning.shown {action : Action}
    (cleaning : Cleaning subject policy exchanges (.ok action)) :
    phaseAfter (subject.cluster.status.map (·.phase)) exchanges = some Phase.deleting.text := by
  cases cleaning with
  | cleaned begun removed =>
    rw [phaseAfter_append, (unphased_of_course removed).phaseAfter_eq, begun.phaseAfter_eq]
    split
    · rfl
    · exact shown_of_unneeded (Bool.eq_false_iff.2 ‹_›)

/-- What a pass over a cluster records of itself in the status is true. -/
structure Truthful (served : V1alpha1.Cluster) (settings : Option Settings)
    (history : List Exchange) (result : Except OperatorError Action) : Prop where
  /-- Phases are recorded in the status of the cluster itself. -/
  own : ∀ before key phase answer after,
    history = before ++ ⟨.setPhase key phase, answer⟩ :: after →
    served.metadata.namespace = some key.namespace ∧ served.metadata.displayName = key.name
  /-- When a cluster is called ready, the last exchange about each kind has shown that it is, and
  nothing follows. -/
  ready : ∀ before key answer after, history = before ++ ⟨.setPhase key .ready, answer⟩ :: after →
    served.metadata.isDeleting = false ∧ after = [] ∧ ∃ known, settings = some known ∧
      ∀ kind : Kind, ∃ exchange, Exchange.LastAbout kind before exchange ∧
        kind.Witnessed ⟨V1alpha1.Cluster.scheme, known⟩ served.toCluster exchange
  progressing : ∀ before key answer after,
    history = before ++ ⟨.setPhase key .progressing, answer⟩ :: after →
    served.metadata.isDeleting = false ∧ served.status = none ∧ before = []
  deleting : ∀ before key answer after,
    history = before ++ ⟨.setPhase key .deleting, answer⟩ :: after →
    served.metadata.isDeleting = true ∧ before = []
  /-- No phase is recorded that the status shows by then. -/
  new : ∀ before key phase answer after,
    history = before ++ ⟨.setPhase key phase, answer⟩ :: after →
    phaseAfter (served.status.map (·.phase)) before ≠ some phase.text
  inOrder : patches history <+:
    if served.metadata.isDeleting then [.deleting]
    else if served.status.isNone then [.progressing, .ready] else [.ready]
  /-- Without the finalizer nothing is applied or cleaned up, and no phase recorded. -/
  guarded : clusterFinalizer ∉ served.finalizers → patches history = []
  /-- After a pass that ended well the status shows what has become of the cluster. -/
  shown : ∀ action, result = .ok action → clusterFinalizer ∈ served.finalizers →
    phaseAfter (served.status.map (·.phase)) history =
      some (if served.metadata.isDeleting then Phase.deleting else .ready).text

theorem Application.truthful {served : V1alpha1.Cluster} {«namespace» : String} {known : Settings}
    (space : served.metadata.namespace = some «namespace»)
    (unmarked : served.metadata.isDeleting = false) (carried : clusterFinalizer ∈ served.finalizers)
    (application : Application ⟨served, «namespace»⟩ ⟨V1alpha1.Cluster.scheme, known⟩ exchanges
      result) :
    Truthful served (some known) exchanges result where
  own before key phase answer after split := by
    obtain ⟨rfl, -⟩ := application.patch_cases split
    exact ⟨space, rfl⟩
  ready before key answer after split := by
    obtain ⟨-, ⟨⟨⟩, -⟩ | ⟨-, -, last, opening, middle, events, hint, rfl, begun, made⟩⟩ :=
      application.patch_cases split
    refine ⟨unmarked, last, known, rfl, fun kind => ?_⟩
    obtain ⟨exchange, lastAbout, witnessed⟩ := made.witnessed kind
    exact ⟨exchange, lastAbout.before opening, witnessed⟩
  progressing before key answer after split := by
    obtain ⟨-, ⟨-, missing, first⟩ | ⟨⟨⟩, -⟩⟩ := application.patch_cases split
    exact ⟨unmarked, Option.isNone_iff_eq_none.1 missing, first⟩
  deleting before key answer after split := by
    obtain ⟨-, ⟨⟨⟩, -⟩ | ⟨⟨⟩, -⟩⟩ := application.patch_cases split
  new before key phase answer after split := by
    obtain ⟨-, ⟨rfl, missing, rfl⟩ | ⟨rfl, needed, -, opening, middle, _, _, rfl, begun, made⟩⟩ :=
      application.patch_cases split
    · rw [show served.status = none from Option.isNone_iff_eq_none.1 missing]
      rintro ⟨⟩
    · rw [phaseAfter_append, (unphased_of_course made).phaseAfter_eq, begun.phaseAfter_eq]
      split
      · decide
      · exact not_shown_of_needed needed
  inOrder := by
    rw [unmarked]
    exact application.patches_prefix
  guarded absent := absurd carried absent
  shown := by
    rintro action rfl -
    rw [unmarked]
    exact application.shown

theorem Cleaning.truthful {served : V1alpha1.Cluster} {«namespace» : String} {known : Settings}
    {tail : List Exchange} {ending : Except OperatorError Action}
    (space : served.metadata.namespace = some «namespace»)
    (marked : served.metadata.isDeleting = true) (carried : clusterFinalizer ∈ served.finalizers)
    (cleaning : Cleaning ⟨served, «namespace»⟩ ⟨V1alpha1.Cluster.scheme, known⟩ exchanges ending)
    (unphased : Unphased tail) (ended : ∀ action, result = .ok action → ending = .ok action) :
    Truthful served (some known) (exchanges ++ tail) result := by
  have cases : ∀ before key phase answer after,
      exchanges ++ tail = before ++ ⟨.setPhase key phase, answer⟩ :: after →
      key = (⟨served, «namespace»⟩ : Subject).key ∧ phase = .deleting ∧
        needsPhase served.status .deleting = true ∧ before = [] := by
    intro before key phase answer after split
    rcases Exchange.split_append split with ⟨_, within, -⟩ | ⟨_, atEnd, -⟩
    · exact cleaning.patch_cases within
    · exact absurd atEnd unphased.ne_split
  exact {
    own before key phase answer after split := by
      obtain ⟨rfl, -⟩ := cases _ _ _ _ _ split
      exact ⟨space, rfl⟩
    ready before key answer after split := by
      obtain ⟨-, ⟨⟩, -⟩ := cases _ _ _ _ _ split
    progressing before key answer after split := by
      obtain ⟨-, ⟨⟩, -⟩ := cases _ _ _ _ _ split
    deleting before key answer after split := ⟨marked, (cases _ _ _ _ _ split).2.2.2⟩
    new before key phase answer after split := by
      obtain ⟨-, rfl, needed, rfl⟩ := cases _ _ _ _ _ split
      exact not_shown_of_needed needed
    inOrder := by
      rw [marked, patches_append, unphased.patches_eq, List.append_nil]
      exact cleaning.patches_prefix
    guarded absent := absurd carried absent
    shown := by
      intro action ok _
      obtain rfl := ended action ok
      rw [marked, phaseAfter_append, unphased.phaseAfter_eq]
      exact cleaning.shown }

theorem truthful_of_unphased {served : V1alpha1.Cluster} {settings : Option Settings}
    (unphased : Unphased exchanges)
    (ended : ∀ action, result = .ok action → clusterFinalizer ∉ served.finalizers) :
    Truthful served settings exchanges result where
  own _ _ _ _ _ split := absurd split unphased.ne_split
  ready _ _ _ _ split := absurd split unphased.ne_split
  progressing _ _ _ _ split := absurd split unphased.ne_split
  deleting _ _ _ _ split := absurd split unphased.ne_split
  new _ _ _ _ _ split := absurd split unphased.ne_split
  inOrder := by
    rw [unphased.patches_eq]
    exact List.nil_prefix
  guarded _ := unphased.patches_eq
  shown action ok carried := absurd carried (ended action ok)

theorem Course.truthful {served : V1alpha1.Cluster} {settings : Option Settings}
    (course : Course served settings exchanges result) :
    Truthful served settings exchanges result := by
  have nothing : Unphased [] := fun _ member => absurd member List.not_mem_nil
  cases course with
  | unplaced | unsettled | unnamed => exact truthful_of_unphased nothing (by rintro _ ⟨⟩)
  | released absent => exact truthful_of_unphased nothing fun _ _ => absent
  | notAdopted _ absent | adopted absent =>
    exact truthful_of_unphased (unphased_singleton (by rintro _ _ ⟨⟩)) fun _ _ => absent
  | applied space set carried unmarked application =>
    subst set
    exact application.truthful space unmarked carried
  | notCleaned space set carried marked cleaning =>
    subst set
    rw [← List.append_nil exchanges]
    exact cleaning.truthful space marked carried nothing (by rintro _ ⟨⟩)
  | notReleased error space set carried marked cleaning =>
    subst set
    exact cleaning.truthful space marked carried (unphased_singleton (by rintro _ _ ⟨⟩))
      (by rintro _ ⟨⟩)
  | cleaned space set carried marked cleaning =>
    subst set
    exact cleaning.truthful space marked carried (unphased_singleton (by rintro _ _ ⟨⟩))
      fun _ => id

/-- However its calls are answered, what a pass over a cluster records in the status is true. -/
theorem truthful_of_run {σ : Type} (answer : (call : Call) → σ → call.Answer × σ) (state : σ)
    (served : V1alpha1.Cluster) (settings : Option Settings) :
    Truthful served settings ((cluster served settings).history answer state)
      ((cluster served settings).run answer state).result :=
  (course_of_ends ((cluster served settings).ends_run answer state)).truthful

end Reconcile

end CephExport
