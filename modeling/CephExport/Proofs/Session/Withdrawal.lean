import CephExport.Proofs.Fleet.LostUpdate
import CephExport.Proofs.Pass.Course
import CephExport.Proofs.Store.Reliable
import Mathlib.Algebra.BigOperators.Group.Finset.Basic

/-!
The removal of the resources of a cluster pass by pass. A deletion takes an object away at once or
only marks it; one that is only marked ends the pass, and goes away before the next. Each object is
deleted once, and each one that is waited for costs one more pass.
-/

set_option autoImplicit false
set_option relaxedAutoImplicit false

namespace CephExport

namespace Contents

/-- The calls that are accepted where a deletion only marks the objects that linger, and takes all
others away. -/
def AcceptsLingering (lingers : Place → Bool) (before : Contents) (call : Call) (reply : call.Reply)
    (after : Contents) : Prop :=
  before.Accepts call reply after ∧ ∀ kind key, call = .delete kind key →
    (after.Holds ⟨kind, key⟩ ↔ lingers ⟨kind, key⟩ = true)

def isLive (contents : Contents) (parent : ObjectKey) (kind : Kind) : Bool :=
  (contents.object (kind.place parent)).any fun object => !object.metadata.isDeleting

def isPending (lingers : Place → Bool) (contents : Contents) (parent : ObjectKey) (kind : Kind) :
    Bool :=
  (contents.object (kind.place parent)).any fun object =>
    object.metadata.isDeleting || lingers (kind.place parent)

def owedDeletions (contents : Contents) (parent : ObjectKey) (kind : Kind) : Nat :=
  if contents.isLive parent kind then 1 else 0

section

variable (lingers : Place → Bool) {contents : Contents} {parent : ObjectKey} {kind : Kind}

theorem isPending_of_absent (gone : contents.object (kind.place parent) = none) :
    contents.isPending lingers parent kind = false := by
  rw [isPending, gone]
  rfl

theorem owedDeletions_of_absent (gone : contents.object (kind.place parent) = none) :
    contents.owedDeletions parent kind = 0 := by
  rw [owedDeletions, isLive, gone]
  rfl

variable {live : Managed kind} (kept : contents.object (kind.place parent) = some live)
include kept

theorem isPending_of_marked (marked : live.metadata.isDeleting = true) :
    contents.isPending lingers parent kind = true := by
  rw [isPending, kept, Option.any_some, marked, Bool.true_or]

theorem owedDeletions_of_marked (marked : live.metadata.isDeleting = true) :
    contents.owedDeletions parent kind = 0 := by
  rw [owedDeletions, isLive, kept, Option.any_some, marked]
  rfl

theorem isPending_of_unmarked (unmarked : live.metadata.isDeleting = false) :
    contents.isPending lingers parent kind = lingers (kind.place parent) := by
  rw [isPending, kept, Option.any_some, unmarked, Bool.false_or]

theorem owedDeletions_of_unmarked (unmarked : live.metadata.isDeleting = false) :
    contents.owedDeletions parent kind = 1 := by
  rw [owedDeletions, isLive, kept, Option.any_some, unmarked]
  rfl

end

variable {lingers : Place → Bool} {before after : Contents} {kind : Kind} {key : ObjectKey}
  {parent : ObjectKey}

theorem isPending_congr
    (same : after.object (kind.place parent) = before.object (kind.place parent)) :
    after.isPending lingers parent kind = before.isPending lingers parent kind := by
  rw [isPending, isPending, same]

theorem owedDeletions_congr
    (same : after.object (kind.place parent) = before.object (kind.place parent)) :
    after.owedDeletions parent kind = before.owedDeletions parent kind := by
  rw [owedDeletions, owedDeletions, isLive, isLive, same]

theorem acceptsLingering_get {reply : (Call.get kind key).Reply} :
    AcceptsLingering lingers before (.get kind key) reply after ↔
      reply = before.object ⟨kind, key⟩ ∧ after = before := by
  rw [AcceptsLingering, accepts_get, and_iff_left_iff_imp]
  rintro - _ _ ⟨⟩

end Contents

theorem Backend.Serves.unreliable {lingers : Place → Bool} {before after : Contents}
    {exchanges : List Exchange}
    (served : (Reliable (Contents.AcceptsLingering lingers)).Serves before exchanges after) :
    (Unreliable Contents.Accepts).Serves before exchanges after := by
  refine served.mono fun before call answer after served => ?_
  cases served with
  | accepted taken => exact .accepted taken.1
  | refused error _ => exact .failed error

theorem Reliable.deletion {lingers : Place → Bool} {before after : Contents} {kind : Kind}
    {key : ObjectKey} {live : Managed kind} {answer : (Call.delete kind key).Answer}
    (renewable : before.Renewable) (kept : before.object ⟨kind, key⟩ = some live)
    (unmarked : live.metadata.isDeleting = false)
    (served : Reliable (Contents.AcceptsLingering lingers) before (.delete kind key) answer after) :
    answer = .ok () ∧
      ((lingers ⟨kind, key⟩ = false ∧ after.object ⟨kind, key⟩ = none) ∨
      (lingers ⟨kind, key⟩ = true ∧ ∃ marked : Managed kind,
        after.object ⟨kind, key⟩ = some marked ∧ marked.metadata.isDeleting = true)) := by
  have possible : ∃ reply after,
      before.AcceptsLingering lingers (.delete kind key) reply after := by
    cases lasting : lingers ⟨kind, key⟩ with
    | false =>
      refine ⟨(), _, .remove kept, ?_⟩
      rintro _ _ ⟨⟩
      simp [Contents.Holds, lasting]
    | true =>
      obtain ⟨version, fresh⟩ := renewable.exists_fresh ⟨kind, key⟩
      refine ⟨(), _, .mark ⟨default⟩ kept fresh, ?_⟩
      rintro _ _ ⟨⟩
      simp [Contents.Holds, lasting]
  obtain ⟨reply, rfl, taken, lasts⟩ := served.reply_of_possible possible
  have lasts := lasts kind key rfl
  refine ⟨rfl, ?_⟩
  cases taken with
  | remove =>
    refine .inl ⟨?_, Contents.remove_object_self before⟩
    rw [← Bool.not_eq_true, ← lasts, Contents.Holds, Contents.remove_object_self]
    exact fun present => present rfl
  | mark time =>
    exact .inr ⟨lasts.1 (Contents.holds_store _ _ _), _, Contents.store_object_self _ _ _, rfl⟩
  | alreadyMarked kept' marked =>
    obtain rfl := Option.some.inj (kept'.symm.trans kept)
    rw [unmarked] at marked
    cases marked

section

variable {lingers : Place → Bool} {parent : ObjectKey} {cluster : Cluster} {policy : Policy}
  {before after : Contents} {exchanges : List Exchange} {events : List Event}
  {result : Except OperatorError RequeueHint}

namespace Kind

/-- What a pass does about the resource of a kind that it comes to: it deletes one that is not
marked yet, and goes on only if the resource is gone then. -/
structure Withdrawal (lingers : Place → Bool) (parent : ObjectKey) (kind : Kind)
    (before after : Contents) (exchanges : List Exchange) : Prop where
  deletions : exchanges.countP (·.deletes kind) = before.owedDeletions parent kind
  gone : before.isPending lingers parent kind = false → after.object (kind.place parent) = none
  held : before.isPending lingers parent kind = true → ∃ live : Managed kind,
    after.object (kind.place parent) = some live ∧ live.metadata.isDeleting = true

def waiting (kind : Kind) (parent : ObjectKey) : OperatorError :=
  .stillDeleting kind.name (kind.home parent).name

theorem waiting_injective {kind other : Kind} (h : kind.waiting parent = other.waiting parent) :
    kind = other :=
  name_injective (OperatorError.stillDeleting.inj h).1

private theorem Confirmation.answered {kind : Kind} {key : ObjectKey}
    (confirmed : Confirmation kind key exchanges events result)
    (served : (Reliable (Contents.AcceptsLingering lingers)).Serves before exchanges after) :
    after = before ∧ exchanges.countP (·.deletes kind) = 0 ∧
      ((before.object ⟨kind, key⟩ = none ∧ result = .ok .done) ∨
      (∃ live, before.object ⟨kind, key⟩ = some live) ∧
        result = .error (.stillDeleting kind.name key.name)) := by
  cases confirmed with
  | failed error =>
    obtain ⟨⟨⟩, -⟩ := Reliable.reading_first (fun _ _ => Contents.acceptsLingering_get) served
  | gone =>
    obtain ⟨gone, last⟩ := Reliable.found_first (fun _ _ => Contents.acceptsLingering_get) served
    exact ⟨Backend.serves_nil_iff.1 last, rfl, .inl ⟨gone, rfl⟩⟩
  | present live =>
    obtain ⟨kept, last⟩ := Reliable.found_first (fun _ _ => Contents.acceptsLingering_get) served
    exact ⟨Backend.serves_nil_iff.1 last, rfl, .inr ⟨⟨live, kept⟩, rfl⟩⟩

section

variable {kind : Kind}

private theorem Withdrawal.of_gone (free : before.isPending lingers parent kind = false)
    (deletions : exchanges.countP (·.deletes kind) = before.owedDeletions parent kind)
    (gone : after.object (kind.place parent) = none) :
    kind.Withdrawal lingers parent before after exchanges ∧
      (.ok .done : Except OperatorError RequeueHint) =
        if before.isPending lingers parent kind then .error (kind.waiting parent)
        else .ok .done := by
  rw [if_neg (Bool.eq_false_iff.1 free)]
  exact ⟨⟨deletions, fun _ => gone, fun pending => absurd (free.symm.trans pending) nofun⟩, rfl⟩

private theorem Withdrawal.of_held {live : Managed kind}
    (pending : before.isPending lingers parent kind = true)
    (deletions : exchanges.countP (·.deletes kind) = before.owedDeletions parent kind)
    (kept : after.object (kind.place parent) = some live)
    (marked : live.metadata.isDeleting = true) :
    kind.Withdrawal lingers parent before after exchanges ∧
      (.error (kind.waiting parent) : Except OperatorError RequeueHint) =
        if before.isPending lingers parent kind then .error (kind.waiting parent)
        else .ok .done := by
  rw [if_pos pending]
  exact ⟨⟨deletions, fun free => absurd (free.symm.trans pending) nofun,
    fun _ => ⟨live, kept, marked⟩⟩, rfl⟩

theorem Removal.withdrawal (renewable : before.Renewable)
    (removal : Removal kind (kind.home parent) exchanges events result)
    (served : (Reliable (Contents.AcceptsLingering lingers)).Serves before exchanges after) :
    kind.Withdrawal lingers parent before after exchanges ∧
      result = if before.isPending lingers parent kind then .error (kind.waiting parent)
        else .ok .done := by
  cases removal with
  | unread error =>
    obtain ⟨⟨⟩, -⟩ := Reliable.reading_first (fun _ _ => Contents.acceptsLingering_get) served
  | absent =>
    obtain ⟨gone, last⟩ := Reliable.found_first (fun _ _ => Contents.acceptsLingering_get) served
    obtain rfl := Backend.serves_nil_iff.1 last
    exact Withdrawal.of_gone (Contents.isPending_of_absent lingers gone)
      (Contents.owedDeletions_of_absent gone).symm gone
  | marked marked confirmed =>
    obtain ⟨kept, later⟩ := Reliable.found_first (fun _ _ => Contents.acceptsLingering_get) served
    obtain ⟨rfl, undeleted, ⟨gone, -⟩ | ⟨-, rfl⟩⟩ := confirmed.answered later
    · cases kept.symm.trans gone
    · refine Withdrawal.of_held (Contents.isPending_of_marked lingers kept marked) ?_ kept marked
      simpa [Contents.owedDeletions_of_marked kept marked] using undeleted
  | refused error unmarked other =>
    obtain ⟨kept, later⟩ := Reliable.found_first (fun _ _ => Contents.acceptsLingering_get) served
    obtain ⟨⟨⟩, -⟩ := (Backend.serves_singleton_iff.1 later).deletion renewable kept unmarked
  | deleted unmarked confirmed =>
    obtain ⟨kept, later⟩ := Reliable.found_first (fun _ _ => Contents.acceptsLingering_get) served
    obtain ⟨between, asked, last⟩ := Backend.serves_cons_iff.1 later
    obtain ⟨-, effect⟩ := asked.deletion renewable kept unmarked
    obtain ⟨rfl, undeleted, answered⟩ := confirmed.answered last
    have pending := Contents.isPending_of_unmarked lingers kept unmarked
    have once := Contents.owedDeletions_of_unmarked kept unmarked
    rcases effect with ⟨brief, gone⟩ | ⟨lasting, live, there, marked⟩
    · rcases answered with ⟨-, rfl⟩ | ⟨⟨_, there⟩, -⟩
      · exact Withdrawal.of_gone (pending.trans brief) (by simp [once, undeleted]) gone
      · cases there.symm.trans gone
    · rcases answered with ⟨gone, -⟩ | ⟨-, rfl⟩
      · cases there.symm.trans gone
      · exact Withdrawal.of_held (pending.trans lasting) (by simp [once, undeleted]) there marked
  | vanished error unmarked missing confirmed =>
    obtain ⟨kept, later⟩ := Reliable.found_first (fun _ _ => Contents.acceptsLingering_get) served
    obtain ⟨between, asked, -⟩ := Backend.serves_cons_iff.1 later
    obtain ⟨⟨⟩, -⟩ := asked.deletion renewable kept unmarked

end

theorem Deletion.withdrawal {kind : Kind} (placed : cluster.IsAt parent)
    (renewable : before.Renewable) (deletion : Deletion kind cluster exchanges events result)
    (served : (Reliable (Contents.AcceptsLingering lingers)).Serves before exchanges after) :
    kind.Withdrawal lingers parent before after exchanges ∧
      result = if before.isPending lingers parent kind then .error (kind.waiting parent)
        else .ok .done := by
  cases deletion with
  | unplaced unplaced =>
    rw [keyFor_of_isAt kind placed] at unplaced
    cases unplaced
  | placed placed' removal =>
    obtain rfl := placed'.unique placed
    exact removal.withdrawal renewable served

section

variable {kind : Kind} {between : Contents} {first second : List Exchange}

private theorem countP_deletes_of_not_about
    (others : ∀ exchange ∈ exchanges, ¬exchange.About kind) :
    exchanges.countP (·.deletes kind) = 0 := by
  rw [List.countP_eq_zero]
  intro exchange member deletes
  exact others exchange member (Exchange.about_of_writes (Exchange.writes_of_deletes deletes))

theorem Withdrawal.deletions_of_gone {next : Contents}
    (withdrawal : kind.Withdrawal lingers parent before after exchanges)
    (gone : next.object (kind.place parent) = none) :
    exchanges.countP (·.deletes kind) + next.owedDeletions parent kind =
      before.owedDeletions parent kind := by
  rw [withdrawal.deletions, Contents.owedDeletions_of_absent gone, Nat.add_zero]

theorem Withdrawal.followed (withdrawal : kind.Withdrawal lingers parent before between first)
    (others : ∀ exchange ∈ second, ¬exchange.About kind)
    (same : after.object (kind.place parent) = between.object (kind.place parent)) :
    kind.Withdrawal lingers parent before after (first ++ second) where
  deletions := by
    rw [List.countP_append, withdrawal.deletions, countP_deletes_of_not_about others, Nat.add_zero]
  gone free := same.trans (withdrawal.gone free)
  held pending := by
    rw [same]
    exact withdrawal.held pending

theorem Withdrawal.preceded (withdrawal : kind.Withdrawal lingers parent between after second)
    (others : ∀ exchange ∈ first, ¬exchange.About kind)
    (same : between.object (kind.place parent) = before.object (kind.place parent)) :
    kind.Withdrawal lingers parent before after (first ++ second) where
  deletions := by
    rw [List.countP_append, withdrawal.deletions, countP_deletes_of_not_about others, Nat.zero_add,
      Contents.owedDeletions_congr same]
  gone free := withdrawal.gone ((Contents.isPending_congr same).trans free)
  held pending := withdrawal.held ((Contents.isPending_congr same).trans pending)

end

end Kind

namespace Orchestrator

/-- How far a pass comes that removes resources one after another: to the end, or to the first that
is pending; what comes after that one it does not touch. -/
inductive Progress (lingers : Place → Bool) (parent : ObjectKey) (before after : Contents)
    (exchanges : List Exchange) : List Kind → Except OperatorError RequeueHint → Prop
  | finished {kinds : List Kind}
      (withdrawn : ∀ kind ∈ kinds, kind.Withdrawal lingers parent before after exchanges)
      (free : ∀ kind ∈ kinds, before.isPending lingers parent kind = false) :
      Progress lingers parent before after exchanges kinds (.ok .done)
  | waits {earlier later : List Kind} {kind : Kind}
      (withdrawn : ∀ other ∈ earlier, other.Withdrawal lingers parent before after exchanges)
      (free : ∀ other ∈ earlier, before.isPending lingers parent other = false)
      (held : kind.Withdrawal lingers parent before after exchanges)
      (pending : before.isPending lingers parent kind = true)
      (unread : ∀ other ∈ later, ∀ exchange ∈ exchanges, ¬exchange.About other)
      (unchanged : ∀ other ∈ later,
        after.object (other.place parent) = before.object (other.place parent)) :
      Progress lingers parent before after exchanges (earlier ++ kind :: later)
        (.error (kind.waiting parent))

variable {between : Contents} {first second : List Exchange} {kinds : List Kind} {kind : Kind}

theorem Progress.cons (free : before.isPending lingers parent kind = false)
    (here : kind.Withdrawal lingers parent before between first)
    (later : Progress lingers parent between after second kinds result)
    (othersFirst : ∀ other ∈ kinds, ∀ exchange ∈ first, ¬exchange.About other)
    (sameFirst : ∀ other ∈ kinds,
      between.object (other.place parent) = before.object (other.place parent))
    (othersSecond : ∀ exchange ∈ second, ¬exchange.About kind)
    (sameSecond : after.object (kind.place parent) = between.object (kind.place parent)) :
    Progress lingers parent before after (first ++ second) (kind :: kinds) result := by
  have head := here.followed othersSecond sameSecond
  cases later with
  | finished withdrawn others =>
    refine .finished (List.forall_mem_cons.2 ⟨head, fun other member => ?_⟩)
      (List.forall_mem_cons.2 ⟨free, fun other member => ?_⟩)
    · exact (withdrawn other member).preceded (othersFirst other member) (sameFirst other member)
    · rw [← Contents.isPending_congr (sameFirst other member)]
      exact others other member
  | @waits earlier later waited withdrawn others held pending unread unchanged =>
    have among : ∀ other ∈ earlier, other ∈ earlier ++ waited :: later :=
      fun _ => List.mem_append_left _
    have here : waited ∈ earlier ++ waited :: later :=
      List.mem_append_right _ List.mem_cons_self
    have beyond : ∀ other ∈ later, other ∈ earlier ++ waited :: later :=
      fun _ member => List.mem_append_right _ (List.mem_cons_of_mem _ member)
    rw [← List.cons_append]
    refine .waits (List.forall_mem_cons.2 ⟨head, fun other member => ?_⟩)
      (List.forall_mem_cons.2 ⟨free, fun other member => ?_⟩)
      (held.preceded (othersFirst _ here) (sameFirst _ here)) ?_ ?_ ?_
    · exact (withdrawn other member).preceded (othersFirst _ (among _ member))
        (sameFirst _ (among _ member))
    · rw [← Contents.isPending_congr (sameFirst _ (among _ member))]
      exact others other member
    · rw [← Contents.isPending_congr (sameFirst _ here)]
      exact pending
    · intro other member
      exact List.forall_mem_append.2 ⟨othersFirst _ (beyond _ member), unread other member⟩
    · intro other member
      exact (unchanged other member).trans (sameFirst _ (beyond _ member))

private theorem InTurn.progress (placed : cluster.IsAt parent) (distinct : kinds.Nodup)
    (renewable : before.Renewable)
    (turns : InTurn (Kind.Deletion · cluster) kinds exchanges events result)
    (served : (Reliable (Contents.AcceptsLingering lingers)).Serves before exchanges after) :
    Progress lingers parent before after exchanges kinds result := by
  induction turns generalizing before with
  | finished =>
    exact .finished (fun _ member => absurd member List.not_mem_nil)
      (fun _ member => absurd member List.not_mem_nil)
  | @failed kind rest _ _ error here =>
    obtain ⟨notLater, -⟩ := List.nodup_cons.1 distinct
    obtain ⟨withdrawal, ended⟩ := here.withdrawal placed renewable served
    have others : ∀ other ∈ rest, other ≠ kind := fun other member same => notLater (same ▸ member)
    split at ended
    · rename_i pending
      obtain rfl := Except.error.inj ended
      exact .waits (fun _ member => absurd member List.not_mem_nil)
        (fun _ member => absurd member List.not_mem_nil) withdrawal pending
        (fun other member exchange among isAbout =>
          others other member (isAbout.unique (here.about exchange among)))
        fun other member => served.unreliable.object_eq_of_about (others other member) here.about
    · cases ended
  | @passed kind rest first second _ _ _ here next ih =>
    obtain ⟨between, early, late⟩ := Backend.serves_append_iff.1 served
    obtain ⟨notLater, distinct⟩ := List.nodup_cons.1 distinct
    obtain ⟨withdrawal, ended⟩ := here.withdrawal placed renewable early
    have others : ∀ other ∈ rest, other ≠ kind := fun other member same => notLater (same ▸ member)
    -- The later turns start where this one ends, and neither touches the other's objects.
    have apart : ∀ exchange ∈ second, ¬exchange.About kind := by
      intro exchange member isAbout
      obtain ⟨other, amongst, isAboutOther⟩ :=
        next.about (fun _ _ _ _ => Kind.Deletion.about) exchange member
      exact notLater (isAbout.unique isAboutOther ▸ amongst)
    have free : before.isPending lingers parent kind = false := by
      by_contra pending
      rw [if_pos (Bool.eq_true_of_not_eq_false pending)] at ended
      cases ended
    refine .cons free withdrawal
      (ih distinct (early.unreliable.renewable renewable) late) ?_ ?_ apart ?_
    · exact fun other member exchange among isAbout =>
        others other member (isAbout.unique (here.about exchange among))
    · exact fun other member => early.unreliable.object_eq_of_about (others other member) here.about
    · exact late.unreliable.object_eq fun exchange member concerns =>
        apart exchange member concerns.about

theorem progress_of_ends (placed : cluster.IsAt parent) (renewable : before.Renewable)
    (ended : (ensureDeleted (nfs policy) cluster).Ends exchanges events result)
    (served : (Reliable (Contents.AcceptsLingering lingers)).Serves before exchanges after) :
    Progress lingers parent before after exchanges deletionOrder result := by
  cases course_of_ensureDeleted ended with
  | deletions turns => exact turns.progress placed (by decide) renewable served

inductive Settles (parent : ObjectKey) (after : Contents) :
    Except OperatorError RequeueHint → Contents → Prop
  | finished : Settles parent after (.ok .done) after
  | released (kind : Kind) :
      Settles parent after (.error (kind.waiting parent)) (after.remove (kind.place parent))

theorem Settles.renewable {next : Contents} (settles : Settles parent after result next)
    (renewable : after.Renewable) : next.Renewable := by
  cases settles with
  | finished => exact renewable
  | released => exact renewable.remove _

theorem Settles.eq_of_done {next : Contents} (settles : Settles parent after result next)
    (done : result = .ok .done) : next = after := by
  cases settles with
  | finished => rfl
  | released => cases done

theorem Settles.eq_of_waiting {next : Contents} {kind : Kind}
    (settles : Settles parent after (.error (kind.waiting parent)) next) :
    next = after.remove (kind.place parent) := by
  generalize ended : (Except.error (kind.waiting parent) : Except OperatorError RequeueHint) =
    result at settles
  cases settles with
  | finished => cases ended
  | released other =>
    obtain rfl := Kind.waiting_injective (Except.error.inj ended)
    rfl

theorem Settles.object_self {next : Contents} {kind : Kind}
    (settles : Settles parent after (.error (kind.waiting parent)) next) :
    next.object (kind.place parent) = none := by
  rw [settles.eq_of_waiting, Contents.remove_object_self]

theorem Settles.object_of_ne {next : Contents} {kind other : Kind}
    (settles : Settles parent after (.error (kind.waiting parent)) next)
    (different : other ≠ kind) :
    next.object (other.place parent) = after.object (other.place parent) := by
  rw [settles.eq_of_waiting, Contents.remove_object_of_ne _ (Kind.place_ne different parent)]

/-- The resources that a pass would have to wait for, in the order in which it comes to them. -/
def pendings (lingers : Place → Bool) (parent : ObjectKey) (contents : Contents)
    (kinds : List Kind) : List Kind :=
  kinds.filter fun kind => contents.isPending lingers parent kind

variable {next : Contents}

theorem pendings_eq_nil (free : ∀ kind ∈ kinds, next.isPending lingers parent kind = false) :
    pendings lingers parent next kinds = [] := by
  simpa [pendings] using free

theorem pendings_split {earlier later : List Kind}
    (free : ∀ other ∈ earlier, next.isPending lingers parent other = false) :
    pendings lingers parent next (earlier ++ later) = pendings lingers parent next later := by
  rw [pendings, List.filter_append, ← pendings, pendings_eq_nil free, List.nil_append, pendings]

theorem pendings_cons_of_pending (pending : next.isPending lingers parent kind = true) :
    pendings lingers parent next (kind :: kinds) = kind :: pendings lingers parent next kinds :=
  List.filter_cons_of_pos pending

theorem pendings_cons_of_free (free : next.isPending lingers parent kind = false) :
    pendings lingers parent next (kind :: kinds) = pendings lingers parent next kinds :=
  List.filter_cons_of_neg (Bool.eq_false_iff.1 free)

theorem length_pendings : (pendings lingers parent next kinds).length =
    kinds.countP (next.isPending lingers parent) :=
  List.countP_eq_length_filter.symm

theorem Progress.result_eq
    (progress : Progress lingers parent before after exchanges kinds result) :
    result = match (pendings lingers parent before kinds).head? with
      | none => .ok .done
      | some kind => .error (kind.waiting parent) := by
  cases progress with
  | finished _ free =>
    rw [pendings_eq_nil free]
    rfl
  | @waits earlier later kind _ free _ pending =>
    rw [pendings_split free, pendings_cons_of_pending pending]
    rfl

theorem Progress.result_eq_done_iff
    (progress : Progress lingers parent before after exchanges kinds result) :
    result = .ok .done ↔ pendings lingers parent before kinds = [] := by
  rw [progress.result_eq]
  cases pendings lingers parent before kinds <;> simp

theorem Progress.gone_of_done
    (progress : Progress lingers parent before after exchanges kinds result)
    (done : result = .ok .done) (among : kind ∈ kinds) :
    after.object (kind.place parent) = none := by
  cases progress with
  | finished withdrawn free => exact (withdrawn kind among).gone (free kind among)
  | waits => cases done

theorem Progress.pendings_next (distinct : kinds.Nodup)
    (progress : Progress lingers parent before after exchanges kinds result)
    (settles : Settles parent after result next) :
    pendings lingers parent next kinds = (pendings lingers parent before kinds).tail := by
  cases progress with
  | finished withdrawn free =>
    cases settles
    rw [pendings_eq_nil free, List.tail_nil]
    exact pendings_eq_nil fun kind member =>
      Contents.isPending_of_absent lingers ((withdrawn kind member).gone (free kind member))
  | @waits earlier later kind withdrawn free held pending unread unchanged =>
    -- What comes before the kind that is waited for is gone, what comes after it has not changed.
    obtain ⟨-, tail, apart⟩ := List.nodup_append.1 distinct
    have notLater := (List.nodup_cons.1 tail).1
    have released : next.isPending lingers parent kind = false :=
      Contents.isPending_of_absent lingers settles.object_self
    have gone : ∀ other ∈ earlier, next.isPending lingers parent other = false := by
      intro other member
      have same := settles.object_of_ne (apart other member kind List.mem_cons_self)
      exact Contents.isPending_of_absent lingers
        (same.trans ((withdrawn other member).gone (free other member)))
    have same : ∀ other ∈ later,
        next.isPending lingers parent other = before.isPending lingers parent other := by
      intro other member
      have different : other ≠ kind := fun same => notLater (same ▸ member)
      exact Contents.isPending_congr
        ((settles.object_of_ne different).trans (unchanged other member))
    rw [pendings_split free, pendings_cons_of_pending pending, List.tail_cons, pendings_split gone,
      pendings_cons_of_free released]
    exact List.filter_congr same

theorem Progress.deletions_next (distinct : kinds.Nodup)
    (progress : Progress lingers parent before after exchanges kinds result)
    (settles : Settles parent after result next) (among : kind ∈ kinds) :
    exchanges.countP (·.deletes kind) + next.owedDeletions parent kind =
      before.owedDeletions parent kind := by
  cases progress with
  | finished withdrawn free =>
    cases settles
    have withdrawal := withdrawn kind among
    exact withdrawal.deletions_of_gone (withdrawal.gone (free kind among))
  | @waits earlier later waited withdrawn free held pending unread unchanged =>
    obtain ⟨-, tail, apart⟩ := List.nodup_append.1 distinct
    have notLater := (List.nodup_cons.1 tail).1
    rcases List.mem_append.1 among with member | member
    · have withdrawal := withdrawn kind member
      have same := settles.object_of_ne (apart kind member waited List.mem_cons_self)
      exact withdrawal.deletions_of_gone (same.trans (withdrawal.gone (free kind member)))
    · rcases List.mem_cons.1 member with rfl | member
      · exact held.deletions_of_gone settles.object_self
      · have different : kind ≠ waited := fun same => notLater (same ▸ member)
        have same := (settles.object_of_ne different).trans (unchanged kind member)
        rw [Contents.owedDeletions_congr same,
          Kind.countP_deletes_of_not_about (unread kind member), Nat.zero_add]

end Orchestrator

end

/-- A store whose lingering objects are only marked by a deletion, and can be released. -/
structure Custodian (lingers : Place → Bool) (σ : Type) extends
    Implementation (Reliable (Contents.AcceptsLingering lingers)) σ where
  release : Place → σ → σ
  releases : ∀ place state, view (release place state) = (view state).remove place

namespace Custodian

variable {lingers : Place → Bool} {σ : Type} (custodian : Custodian lingers σ)

def settle («namespace» : String) (outcome : Pass.Outcome σ RequeueHint) : σ :=
  match outcome.result with
  | .error (.stillDeleting kindName name) =>
    match Orchestrator.deletionOrder.find? fun kind => kind.name == kindName with
    | some kind => custodian.release ⟨kind, «namespace», name⟩ outcome.state
    | none => outcome.state
  | _ => outcome.state

/-- The states before the passes that are made one after another, with a release after each. -/
def beforePass («namespace» : String) (pass : Pass RequeueHint) (start : σ) : Nat → σ
  | 0 => start
  | count + 1 =>
    custodian.settle «namespace»
      (pass.run custodian.answer (beforePass «namespace» pass start count))

variable {parent : ObjectKey}

theorem settles {kinds : List Kind} {before after : Contents} {exchanges : List Exchange}
    (outcome : Pass.Outcome σ RequeueHint)
    (progress : Orchestrator.Progress lingers parent before after exchanges kinds outcome.result) :
    Orchestrator.Settles parent (custodian.view outcome.state) outcome.result
      (custodian.view (custodian.settle parent.namespace outcome)) := by
  obtain ⟨result, events, state⟩ := outcome
  cases progress with
  | finished => exact .finished
  | @waits _ _ kind =>
    have found : Orchestrator.deletionOrder.find? (fun other => other.name == kind.name) =
        some kind := by
      cases kind <;> rfl
    simp only [settle, Kind.waiting, found, custodian.releases]
    exact .released kind

variable {cluster : Cluster} {start : σ}

section

variable (policy : Policy) (placed : cluster.IsAt parent)
  (renewable : (custodian.view start).Renewable)
include placed renewable

theorem progress_of_run :
    let pass := Orchestrator.ensureDeleted (Orchestrator.nfs policy) cluster
    Orchestrator.Progress lingers parent (custodian.view start)
      (custodian.view (pass.run custodian.answer start).state)
      (pass.history custodian.answer start) Orchestrator.deletionOrder
      (pass.run custodian.answer start).result := by
  intro pass
  exact Orchestrator.progress_of_ends placed renewable (pass.ends_run custodian.answer start)
    (custodian.serves_history pass start)

theorem renewable_beforePass (round : Nat) :
    let pass := Orchestrator.ensureDeleted (Orchestrator.nfs policy) cluster
    (custodian.view (custodian.beforePass parent.namespace pass start round)).Renewable := by
  intro pass
  induction round with
  | zero => exact renewable
  | succ round ih =>
    have kept := (custodian.serves_history pass _).unreliable.renewable ih
    exact (custodian.settles _ (custodian.progress_of_run policy placed ih)).renewable kept

theorem progress_beforePass (round : Nat) :
    let pass := Orchestrator.ensureDeleted (Orchestrator.nfs policy) cluster
    let state := custodian.beforePass parent.namespace pass start
    Orchestrator.Progress lingers parent (custodian.view (state round))
      (custodian.view (pass.run custodian.answer (state round)).state)
      (pass.history custodian.answer (state round)) Orchestrator.deletionOrder
      (pass.run custodian.answer (state round)).result :=
  custodian.progress_of_run policy placed
    (custodian.renewable_beforePass policy placed renewable round)

theorem pendings_beforePass (round : Nat) :
    let pass := Orchestrator.ensureDeleted (Orchestrator.nfs policy) cluster
    let state := custodian.beforePass parent.namespace pass start
    Orchestrator.pendings lingers parent (custodian.view (state round))
        Orchestrator.deletionOrder =
      (Orchestrator.pendings lingers parent (custodian.view start)
        Orchestrator.deletionOrder).drop round := by
  intro pass state
  induction round with
  | zero => rfl
  | succ round ih =>
    have progress := custodian.progress_beforePass policy placed renewable round
    have fewer := progress.pendings_next (by decide) (custodian.settles _ progress)
    rw [← List.tail_drop, ← ih]
    exact fewer

theorem deletions_beforePass (kind : Kind) (rounds : Nat) :
    let pass := Orchestrator.ensureDeleted (Orchestrator.nfs policy) cluster
    let state := custodian.beforePass parent.namespace pass start
    ∑ round ∈ Finset.range rounds,
        (pass.history custodian.answer (state round)).countP (·.deletes kind) +
      (custodian.view (state rounds)).owedDeletions parent kind =
        (custodian.view start).owedDeletions parent kind := by
  intro pass state
  induction rounds with
  | zero => exact Nat.zero_add _
  | succ rounds ih =>
    have progress := custodian.progress_beforePass policy placed renewable rounds
    have once := progress.deletions_next (by decide) (custodian.settles _ progress)
      (Orchestrator.mem_deletionOrder kind)
    rw [Finset.sum_range_succ, Nat.add_assoc, ← ih]
    exact congrArg _ once

end

/-- A pass either ends with every resource gone or waits for the first one that stays, and touches
nothing after it. There are as many waits as resources that stay; by the end each resource that was
there unmarked is deleted once, and no other is. -/
theorem withdraws_in_rounds (policy : Policy) (placed : cluster.IsAt parent)
    (renewable : (custodian.view start).Renewable) :
    let pass := Orchestrator.ensureDeleted (Orchestrator.nfs policy) cluster
    let state := custodian.beforePass parent.namespace pass start
    let rounds := Orchestrator.deletionOrder.countP
      ((custodian.view start).isPending lingers parent)
    (∀ round, Orchestrator.Progress lingers parent (custodian.view (state round))
      (custodian.view (pass.run custodian.answer (state round)).state)
      (pass.history custodian.answer (state round)) Orchestrator.deletionOrder
      (pass.run custodian.answer (state round)).result) ∧
    (∀ round, (pass.run custodian.answer (state round)).result = .ok .done ↔ rounds ≤ round) ∧
    (∀ kind : Kind, (custodian.view (pass.run custodian.answer (state rounds)).state).object
      (kind.place parent) = none) ∧
    ∀ kind, ∑ round ∈ Finset.range (rounds + 1),
        (pass.history custodian.answer (state round)).countP (·.deletes kind) =
      if (custodian.view start).isLive parent kind then 1 else 0 := by
  intro pass state rounds
  have progress := custodian.progress_beforePass policy placed renewable
  have ends : ∀ round,
      (pass.run custodian.answer (state round)).result = .ok .done ↔ rounds ≤ round := by
    intro round
    rw [(progress round).result_eq_done_iff,
      custodian.pendings_beforePass policy placed renewable, List.drop_eq_nil_iff,
      Orchestrator.length_pendings]
  have done := (ends rounds).2 le_rfl
  have gone := fun kind => (progress rounds).gone_of_done done (Orchestrator.mem_deletionOrder kind)
  refine ⟨progress, ends, gone, fun kind => ?_⟩
  have total := custodian.deletions_beforePass policy placed renewable kind (rounds + 1)
  have settled := custodian.settles _ (progress rounds)
  have last : (custodian.view (state (rounds + 1))).owedDeletions parent kind = 0 := by
    apply Contents.owedDeletions_of_absent
    exact (congrArg (·.object (kind.place parent)) (settled.eq_of_done done)).trans (gone kind)
  change _ + (custodian.view (state (rounds + 1))).owedDeletions parent kind = _ at total
  rw [last, Nat.add_zero] at total
  exact total

noncomputable def choosing (lingers : Place → Bool) : Custodian lingers Contents where
  toImplementation := .choosing (Reliable.exists_answer _)
  release place contents := contents.remove place
  releases _ _ := rfl

theorem stray_withdraws_in_one_round :
    let custodian := choosing fun _ => true
    let policy : Policy := ⟨⟨"v1", "StorageCluster"⟩, {}⟩
    let pass := Orchestrator.ensureDeleted (Orchestrator.nfs policy) .sample
    let state := custodian.beforePass Cluster.sampleKey.namespace pass Fleet.strayContents
    (pass.run custodian.answer (state 0)).result ≠ .ok .done ∧
    (pass.run custodian.answer (state 1)).result = .ok .done ∧
    ∑ round ∈ Finset.range 2,
      (pass.history custodian.answer (state round)).countP (·.deletes .service) = 1 := by
  intro custodian policy pass state
  have renewable : (custodian.view Fleet.strayContents).Renewable :=
    Contents.renewable_empty.store _ _ _
  obtain ⟨-, ends, -, deletions⟩ := custodian.withdraws_in_rounds policy Cluster.sample_isAt
    renewable
  have kept : (custodian.view Fleet.strayContents).object (Kind.service.place Cluster.sampleKey) =
      some (Fleet.strayService.atVersion "1") := Contents.store_object_self _ _ _
  have absent : ∀ kind : Kind, kind ≠ .service →
      (custodian.view Fleet.strayContents).object (kind.place Cluster.sampleKey) = none :=
    fun kind other => Contents.store_object_of_ne _ _ _ (Kind.place_ne other _)
  have rounds : Orchestrator.deletionOrder.countP
      ((custodian.view Fleet.strayContents).isPending (fun _ => true) Cluster.sampleKey) = 1 := by
    simp only [Orchestrator.deletionOrder, List.countP_cons, List.countP_nil,
      Contents.isPending_of_unmarked _ kept rfl,
      Contents.isPending_of_absent _ (absent .exporter nofun),
      Contents.isPending_of_absent _ (absent .blockPool nofun)]
    rfl
  have live : (custodian.view Fleet.strayContents).isLive Cluster.sampleKey .service = true := by
    rw [Contents.isLive, kept]
    rfl
  rw [rounds] at ends deletions
  refine ⟨fun done => absurd ((ends 0).1 done) (by decide), (ends 1).2 le_rfl, ?_⟩
  exact (deletions .service).trans (if_pos live)

end Custodian

end CephExport
