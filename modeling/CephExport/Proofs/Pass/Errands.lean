import CephExport.Proofs.Pass.History
import CephExport.Proofs.Pass.Requeue
import CephExport.Reconcile.Orchestrator
import Mathlib.Data.List.FinRange

/-!
Passes over any list of managers. What the managers are to do is settled before a pass begins; it
then asks them one after another, up to and including the first one that fails, and asks none twice.
-/

set_option autoImplicit false
set_option relaxedAutoImplicit false

namespace CephExport

namespace Orchestrator

section

variable {ι : Type}

structure Visit (ι : Type) where
  errand : ι
  exchanges : List Exchange
  events : List Event
  result : Except OperatorError RequeueHint

/-- Some errands were run one after another, each as its own pass, and nothing was done besides. -/
structure CarriedOut (pass : ι → Pass RequeueHint) (visits : List (Visit ι))
    (exchanges : List Exchange) (events : List Event) : Prop where
  each : ∀ visit ∈ visits, (pass visit.errand).Ends visit.exchanges visit.events visit.result
  exchanges_eq : exchanges = visits.flatMap (·.exchanges)
  events_eq : events = visits.flatMap (·.events)

/-- A plan is followed up to and including the first errand that fails, with whose error all ends.
If none fails, the hints are merged into the one at the start. -/
inductive UpToFailure (start : RequeueHint) (plan : List ι) :
    List (Visit ι) → Except OperatorError RequeueHint → Prop
  | finished {visits : List (Visit ι)} {hints : List RequeueHint}
    (all : visits.map (·.errand) = plan)
      (well : visits.map (·.result) = hints.map .ok) :
      UpToFailure start plan visits (.ok (hints.foldl RequeueHint.merge start))
  | failed {visits : List (Visit ι)} {last : Visit ι} {hints : List RequeueHint}
    {error : OperatorError}
      (planned : visits.map (·.errand) ++ [last.errand] <+: plan)
      (well : visits.map (·.result) = hints.map .ok) (fails : last.result = .error error) :
      UpToFailure start plan (visits ++ [last]) (.error error)

variable {pass : ι → Pass RequeueHint} {visit : Visit ι} {visits : List (Visit ι)}
  {exchanges : List Exchange} {events : List Event} {start : RequeueHint} {plan : List ι}
  {errand : ι} {result : Except OperatorError RequeueHint}

theorem carriedOut_nil_iff : CarriedOut pass [] exchanges events ↔ exchanges = [] ∧ events = [] :=
  ⟨fun h => ⟨h.exchanges_eq, h.events_eq⟩, fun h => ⟨nofun, h.1, h.2⟩⟩

theorem carriedOut_cons_iff : CarriedOut pass (visit :: visits) exchanges events ↔
    (pass visit.errand).Ends visit.exchanges visit.events visit.result ∧
      ∃ second later, CarriedOut pass visits second later ∧
        exchanges = visit.exchanges ++ second ∧ events = visit.events ++ later := by
  constructor
  · rintro ⟨each, rfl, rfl⟩
    obtain ⟨here, rest⟩ := List.forall_mem_cons.1 each
    exact ⟨here, _, _, ⟨rest, rfl, rfl⟩, rfl, rfl⟩
  · rintro ⟨here, _, _, ⟨rest, rfl, rfl⟩, rfl, rfl⟩
    exact ⟨List.forall_mem_cons.2 ⟨here, rest⟩, rfl, rfl⟩

theorem upToFailure_nil_iff :
    UpToFailure start ([] : List ι) visits result ↔ visits = [] ∧ result = .ok start := by
  constructor
  · intro followed
    cases followed with
    | finished all well =>
      obtain rfl := List.map_eq_nil_iff.1 all
      obtain rfl := List.map_eq_nil_iff.1 well.symm
      exact ⟨rfl, rfl⟩
    | failed planned => exact absurd (List.prefix_nil.1 planned) (by simp)
  · rintro ⟨rfl, rfl⟩
    exact @UpToFailure.finished ι start [] [] [] rfl rfl

theorem upToFailure_cons_iff : UpToFailure start (errand :: plan) visits result ↔
    ∃ first rest, visits = first :: rest ∧ first.errand = errand ∧
      ((∃ error, first.result = .error error ∧ rest = [] ∧ result = .error error) ∨
        ∃ hint, first.result = .ok hint ∧ UpToFailure (start.merge hint) plan rest result) := by
  constructor
  · intro followed
    cases followed with
    | @finished _ hints all well =>
      obtain ⟨first, rest, rfl, rfl, others⟩ := List.map_eq_cons_iff.1 all
      obtain ⟨hint, later, rfl, here, wells⟩ := List.map_eq_cons_iff.1 well.symm
      exact ⟨first, rest, rfl, rfl, .inr ⟨hint, here.symm, .finished others wells.symm⟩⟩
    | @failed earlier last hints error planned well fails =>
      cases earlier with
      | nil =>
        obtain ⟨same, -⟩ := List.cons_prefix_cons.1 planned
        exact ⟨last, [], rfl, same, .inl ⟨error, fails, rfl, rfl⟩⟩
      | cons first rest =>
        obtain ⟨same, later⟩ := List.cons_prefix_cons.1 planned
        obtain ⟨hint, hints, rfl, here, wells⟩ := List.map_eq_cons_iff.1 well.symm
        exact ⟨first, rest ++ [last], rfl, same,
          .inr ⟨hint, here.symm, .failed later wells.symm fails⟩⟩
  · rintro ⟨first, rest, rfl, rfl, ⟨error, fails, rfl, rfl⟩ | ⟨hint, here, followed⟩⟩
    · have planned : [first.errand] <+: first.errand :: plan :=
        List.cons_prefix_cons.2 ⟨rfl, List.nil_prefix⟩
      exact @UpToFailure.failed ι start (first.errand :: plan) [] first [] error planned rfl fails
    · cases followed with
      | @finished _ hints all well =>
        exact @UpToFailure.finished ι start _ _ (hint :: hints) (congrArg _ all)
          (congrArg₂ _ here well)
      | @failed earlier last hints error planned well fails =>
        have longer : (first :: earlier).map (·.errand) ++ [last.errand] <+: first.errand :: plan :=
          List.cons_prefix_cons.2 ⟨rfl, planned⟩
        exact @UpToFailure.failed ι start _ (first :: earlier) last (hint :: hints) error longer
          (congrArg₂ _ here well) fails

/-- To run passes in order is to follow the plan that they come from, up to the first errand that
fails. -/
theorem ends_inOrder_iff : (inOrder start (plan.map pass)).Ends exchanges events result ↔
    ∃ visits, CarriedOut pass visits exchanges events ∧ UpToFailure start plan visits result := by
  -- What the errands so far hinted is the start for the rest of the plan.
  induction plan generalizing start exchanges events with
  | nil =>
    rw [List.map_nil, inOrder, Pass.ends_pure_iff]
    constructor
    · rintro ⟨idle, silent, rfl⟩
      exact ⟨[], carriedOut_nil_iff.2 ⟨idle, silent⟩, upToFailure_nil_iff.2 ⟨rfl, rfl⟩⟩
    · rintro ⟨visits, carried, followed⟩
      obtain ⟨rfl, ending⟩ := upToFailure_nil_iff.1 followed
      obtain ⟨idle, silent⟩ := carriedOut_nil_iff.1 carried
      exact ⟨idle, silent, ending⟩
  | cons errand rest ih =>
    rw [List.map_cons, inOrder, Pass.ends_bind_iff]
    constructor
    · rintro (⟨error, failed, rfl⟩ | ⟨hint, first, second, reported, later, passed, went, rfl, rfl⟩)
      · refine ⟨[⟨errand, exchanges, events, .error error⟩], carriedOut_cons_iff.2 ?_,
          upToFailure_cons_iff.2 ?_⟩
        · exact ⟨failed, [], [], carriedOut_nil_iff.2 ⟨rfl, rfl⟩, by simp, by simp⟩
        · exact ⟨_, [], rfl, rfl, .inl ⟨error, rfl, rfl, rfl⟩⟩
      · obtain ⟨visits, carried, followed⟩ := ih.1 went
        refine ⟨⟨errand, first, reported, .ok hint⟩ :: visits, carriedOut_cons_iff.2 ?_,
          upToFailure_cons_iff.2 ?_⟩
        · exact ⟨passed, second, later, carried, rfl, rfl⟩
        · exact ⟨_, visits, rfl, rfl, .inr ⟨hint, rfl, followed⟩⟩
    · rintro ⟨visits, carried, followed⟩
      obtain ⟨first, others, rfl, rfl, ending⟩ := upToFailure_cons_iff.1 followed
      obtain ⟨here, second, later, carriedOn, rfl, rfl⟩ := carriedOut_cons_iff.1 carried
      rcases ending with ⟨error, fails, rfl, rfl⟩ | ⟨hint, well, goesOn⟩
      · obtain ⟨rfl, rfl⟩ := carriedOut_nil_iff.1 carriedOn
        rw [fails] at here
        exact .inl ⟨error, by simpa using here, rfl⟩
      · rw [well] at here
        exact .inr ⟨hint, _, second, _, later, here, ih.2 ⟨others, carriedOn, goesOn⟩, rfl, rfl⟩

theorem UpToFailure.errands_prefix (followed : UpToFailure start plan visits result) :
    visits.map (·.errand) <+: plan := by
  cases followed with
  | finished all => exact all ▸ List.prefix_refl _
  | failed planned => simpa using planned

theorem UpToFailure.sumsUp {hint : RequeueHint}
    (followed : UpToFailure .done plan visits (.ok hint)) :
    ∃ hints, visits.map (·.result) = hints.map .ok ∧ hint.SumsUp hints := by
  cases followed with
  | @finished _ hints all well => exact ⟨hints, well, RequeueHint.sumsUp_done.foldl hints⟩

end

variable {managers : List ResourceManager} {cluster : Cluster}

/-- Something that one of some managers, told by its position, can be asked for: to create or to
delete. -/
structure Errand (managers : List ResourceManager) where
  position : Fin managers.length
  creates : Bool

def Errand.pass (cluster : Cluster) (errand : Errand managers) : Pass RequeueHint :=
  let manager := managers[errand.position]
  if errand.creates then manager.ensureCreated cluster else manager.ensureDeleted cluster

/-- The managers whose resources are not wanted are to delete, from the last to the first, and then
the others to create, from the first to the last. -/
def creationErrands (managers : List ResourceManager) (cluster : Cluster) :
    List (Errand managers) :=
  let positions := List.finRange managers.length
  ((positions.reverse.filter fun position => !managers[position].shouldExist cluster).map
      fun position =>
    ⟨position, false⟩) ++
  ((positions.filter fun position => managers[position].shouldExist cluster).map fun position =>
    ⟨position, true⟩)

def deletionErrands (managers : List ResourceManager) : List (Errand managers) :=
  (List.finRange managers.length).reverse.map fun position => ⟨position, false⟩

theorem creationPlan_eq (managers : List ResourceManager) (cluster : Cluster) :
    creationPlan managers cluster =
      (creationErrands managers cluster).map (Errand.pass cluster) := by
  have unwanted : (managers.reverse.filter fun manager => !manager.shouldExist cluster) =
      ((List.finRange managers.length).reverse.filter fun position =>
        !managers[position].shouldExist cluster).map fun position => managers[position] := by
    conv_lhs => rw [← List.map_getElem_finRange managers, ← List.map_reverse, List.filter_map]
    rfl
  have wanted : (managers.filter fun manager => manager.shouldExist cluster) =
      ((List.finRange managers.length).filter fun position =>
        managers[position].shouldExist cluster).map fun position => managers[position] := by
    conv_lhs => rw [← List.map_getElem_finRange managers, List.filter_map]
    rfl
  rw [creationPlan, creationErrands, unwanted, wanted]
  simp only [List.map_append, List.map_map]
  rfl

theorem deletionPlan_eq (managers : List ResourceManager) (cluster : Cluster) :
    deletionPlan managers cluster = (deletionErrands managers).map (Errand.pass cluster) := by
  have all : managers.reverse = (List.finRange managers.length).reverse.map fun position =>
      managers[position] := by
    conv_lhs => rw [← List.map_getElem_finRange managers, ← List.map_reverse]
    rfl
  rw [deletionPlan, deletionErrands, all]
  simp only [List.map_map]
  rfl

theorem nodup_creationErrands (managers : List ResourceManager) (cluster : Cluster) :
    ((creationErrands managers cluster).map (·.position)).Nodup := by
  have distinct := List.nodup_finRange managers.length
  simp only [creationErrands, List.map_append, List.map_map, Function.comp_def, List.map_id']
  refine ((List.nodup_reverse.2 distinct).filter _).append (distinct.filter _) ?_
  intro position unwanted wanted
  have no := (List.mem_filter.1 unwanted).2
  have yes := (List.mem_filter.1 wanted).2
  rw [yes] at no
  cases no

theorem nodup_deletionErrands (managers : List ResourceManager) :
    ((deletionErrands managers).map (·.position)).Nodup := by
  simp only [deletionErrands, List.map_map, Function.comp_def, List.map_id']
  exact List.nodup_reverse.2 (List.nodup_finRange managers.length)

/-- What a pass over some managers that are to run the errands of a plan comes to. -/
structure Follows (cluster : Cluster) (plan : List (Errand managers))
    (visits : List (Visit (Errand managers))) (exchanges : List Exchange) (events : List Event)
    (result : Except OperatorError RequeueHint) : Prop
    extends CarriedOut (Errand.pass cluster) visits exchanges events where
  followed : UpToFailure .done plan visits result
  /-- No manager is asked twice, nor for both. -/
  once : (visits.map (·.errand.position)).Nodup
  /-- Where none fails the hint of the pass sums up theirs. -/
  hinted : ∀ hint, result = .ok hint → ∃ hints,
    visits.map (·.result) = hints.map .ok ∧ hint.SumsUp hints

variable {plan : List (Errand managers)} {visits : List (Visit (Errand managers))}
  {exchanges : List Exchange} {events : List Event} {result : Except OperatorError RequeueHint}

theorem follows_of_distinct (distinct : (plan.map (·.position)).Nodup)
    (carried : CarriedOut (Errand.pass cluster) visits exchanges events)
    (followed : UpToFailure .done plan visits result) :
    Follows cluster plan visits exchanges events result where
  toCarriedOut := carried
  followed := followed
  once := by
    have positions := followed.errands_prefix.map (·.position)
    rw [List.map_map] at positions
    exact distinct.sublist positions.sublist
  hinted := by
    rintro hint rfl
    exact followed.sumsUp

theorem ends_inOrder_iff_follows (distinct : (plan.map (·.position)).Nodup) :
    (inOrder .done (plan.map (Errand.pass cluster))).Ends exchanges events result ↔
      ∃ visits, Follows cluster plan visits exchanges events result := by
  rw [ends_inOrder_iff]
  constructor
  · rintro ⟨visits, carried, followed⟩
    exact ⟨visits, follows_of_distinct distinct carried followed⟩
  · rintro ⟨visits, follows⟩
    exact ⟨visits, follows.toCarriedOut, follows.followed⟩

/-- Whatever the managers are and whatever they do, the ends of the passes over them are those in
which they were asked in the order of the plan up to and including the first that failed. -/
theorem ends_iff_follows_plan (managers : List ResourceManager) (cluster : Cluster)
    (exchanges : List Exchange) (events : List Event) (result : Except OperatorError RequeueHint) :
    ((ensureCreated managers cluster).Ends exchanges events result ↔
      ∃ visits, Follows cluster (creationErrands managers cluster) visits exchanges events result) ∧
    ((ensureDeleted managers cluster).Ends exchanges events result ↔
      ∃ visits, Follows cluster (deletionErrands managers) visits exchanges events result) := by
  constructor
  · rw [ensureCreated, creationPlan_eq]
    exact ends_inOrder_iff_follows (nodup_creationErrands managers cluster)
  · rw [ensureDeleted, deletionPlan_eq]
    exact ends_inOrder_iff_follows (nodup_deletionErrands managers)

end Orchestrator

end CephExport
