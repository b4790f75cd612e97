import CephExport.Proofs.Fleet.Basic
import CephExport.Proofs.Fleet.Upkeep

/-!
Operators that bring the resources of one cluster in line at the same time. They cannot undo each
other's work, and they cannot all fail: a pass that is refused at one resource leaves behind another
pass that got past that resource.
-/

set_option autoImplicit false
set_option relaxedAutoImplicit false

namespace CephExport

open Orchestrator

def Exchange.creates (kind : Kind) : Exchange → Bool
  | ⟨.create other _ _, .ok _⟩ => other == kind
  | _ => false

variable {policy : Policy} {cluster : Cluster} {parent : ObjectKey} {initial : Contents}

namespace Orchestrator

theorem free_of_creates (placed : cluster.IsAt parent) {memory : Memory} {call : Call}
    {answer : call.Answer} {before after : Contents} {kind : Kind}
    (permitted : Upkeep policy cluster parent memory call)
    (served : Prompt before call answer after)
    (creates : Exchange.creates kind ⟨call, answer⟩ = true) :
    before.object (kind.place parent) = none ∧ after.Holds (kind.place parent) := by
  cases permitted with
  | read => cases creates
  | replace => cases creates
  | @create other desired _ _ built =>
    have named : desired.metadata.displayName = (other.home parent).name :=
      Kind.displayName_of_desired placed built
    cases served with
    | occupied => cases creates
    | accepted taken =>
      obtain rfl : other = kind := beq_iff_eq.1 creates
      cases taken with
      | create identity free fresh =>
        rw [named] at free ⊢
        refine ⟨free, ?_⟩
        exact @Contents.holds_store (other.place parent) before (desired.identified identity) _

end Orchestrator

namespace Fleet

/-- Passes for the same cluster at work: each keeps to what it may call for and is informed; no
resource is marked for deletion; a resource that was touched is in sync and left behind a pass that
got past it, and so is a resource at which a pass was refused. -/
structure Converging (policy : Policy) (cluster : Cluster) (parent : ObjectKey) (initial : Contents)
    (fleet : Fleet) : Prop where
  obeys : ∀ worker ∈ fleet.workers,
    worker.Obeys (Upkeep policy cluster parent) (Concludes policy cluster parent)
  informed : ∀ worker ∈ fleet.workers, ∀ kind : Kind,
    Informed policy cluster parent initial fleet.contents kind (worker.memory (kind.place parent))
  unmarked : ∀ (kind : Kind) live, fleet.contents.object (kind.place parent) = some live →
    live.metadata.isDeleting = false
  touched : ∀ kind : Kind,
    fleet.contents.object (kind.place parent) = initial.object (kind.place parent) ∨
    fleet.contents.InSync policy cluster parent kind ∧
      ∃ worker ∈ fleet.workers, SettledThrough policy cluster parent worker.memory kind
  refused : ∀ worker ∈ fleet.workers, ∀ kind : Kind,
    worker.memory (kind.place parent) = .uncertain →
      ∃ other ∈ fleet.workers, SettledThrough policy cluster parent other.memory kind

namespace Converging

theorem untouchedOrInSync {fleet : Fleet}
    (converging : fleet.Converging policy cluster parent initial) (kind : Kind) :
    UntouchedOrInSync policy cluster parent initial fleet.contents kind :=
  (converging.touched kind).imp_right And.left

theorem settled {fleet : Fleet} (converging : fleet.Converging policy cluster parent initial)
    {worker : Worker RequeueHint} (member : worker ∈ fleet.workers) (kind : Kind)
    (settled : Settled policy cluster parent worker.memory kind) :
    fleet.contents.InSync policy cluster parent kind := by
  obtain ⟨desired, built, inLine⟩ := settled
  exact (converging.informed worker member kind).settled desired built inLine

private theorem outcome_of_step {fleet : Fleet}
    (converging : fleet.Converging policy cluster parent initial) (placed : cluster.IsAt parent)
    {worker next : Worker RequeueHint} {exchange : Option Exchange} {after : Contents}
    (member : worker ∈ fleet.workers)
    (step : worker.Step Prompt fleet.contents exchange next after) :
    Outcome policy cluster parent fleet.contents worker.memory next.memory after := by
  have obeys := converging.obeys worker member
  cases step with
  | report => exact .idle
  | call served => exact outcome_of_prompt placed obeys.1 served

theorem of_turn {before after : Fleet} {exchange : Option Exchange}
    (converging : before.Converging policy cluster parent initial) (placed : cluster.IsAt parent)
    (turn : before.Turn Prompt exchange after) :
    after.Converging policy cluster parent initial := by
  obtain ⟨worker, member, next, present, step, others, remain⟩ := turn.inversion
  have outcome := converging.outcome_of_step placed member step
  have persists : ∀ kind, Settled policy cluster parent worker.memory kind →
      Settled policy cluster parent next.memory kind :=
    fun kind settled => outcome.settled (converging.settled member) converging.unmarked settled
  -- Whoever got past a resource is still there, perhaps a step further.
  have survives :
      ∀ kind, (∃ other ∈ before.workers, SettledThrough policy cluster parent other.memory kind) →
      ∃ other ∈ after.workers, SettledThrough policy cluster parent other.memory kind := by
    rintro kind ⟨other, among, through⟩
    rcases remain other among with rfl | still
    · exact ⟨next, present, fun earlier below => persists earlier (through earlier below)⟩
    · exact ⟨other, still, through⟩
  refine ⟨?_, ?_, ?_, ?_, ?_⟩
  · intro other among
    rcases others other among with rfl | old
    · exact step.obeys (converging.obeys worker member)
    · exact converging.obeys other old
  · intro other among kind
    rcases others other among with rfl | old
    · exact outcome.informed converging.untouchedOrInSync converging.unmarked
        (converging.informed worker member) kind
    · exact (converging.informed other old kind).of_inSync outcome.inSync
  · exact fun kind live kept => outcome.unmarked converging.unmarked kept
  · intro kind
    have sound := converging.settled member
    rcases outcome.changed sound converging.unmarked kind with kept | ⟨inSync, through⟩
    · rw [kept]
      exact (converging.touched kind).imp_right fun ⟨inSync, passed⟩ =>
        ⟨outcome.inSync inSync, survives kind passed⟩
    · exact .inr ⟨inSync, next, present, through⟩
  · intro other among kind uncertain
    apply survives
    rcases others other among with rfl | old
    · rcases outcome.uncertain uncertain with before' | outdated
      · exact converging.refused worker member kind before'
      · have changed := outdated.not_initial (converging.informed worker member kind)
        exact ((converging.touched kind).resolve_left changed).2
    · exact converging.refused other old kind uncertain

theorem outcome_of_turn {before after : Fleet} {exchange : Option Exchange}
    (converging : before.Converging policy cluster parent initial) (placed : cluster.IsAt parent)
    (turn : before.Turn Prompt exchange after) :
    ∃ memory memory',
      Outcome policy cluster parent before.contents memory memory' after.contents := by
  obtain ⟨worker, member, next, -, step, -⟩ := turn.inversion
  exact ⟨worker.memory, next.memory, converging.outcome_of_step placed member step⟩

theorem of_run {first last : Fleet} {log : List Exchange}
    (converging : first.Converging policy cluster parent initial) (placed : cluster.IsAt parent)
    (run : first.Run Prompt log last) : last.Converging policy cluster parent initial := by
  induction run with
  | refl => exact converging
  | turn _ turn ih => exact ih.of_turn placed turn

theorem inSync_of_run {first last : Fleet} {log : List Exchange}
    (converging : first.Converging policy cluster parent initial) (placed : cluster.IsAt parent)
    (run : first.Run Prompt log last) {kind : Kind}
    (inSync : first.contents.InSync policy cluster parent kind) :
    last.contents.InSync policy cluster parent kind := by
  induction run with
  | refl => exact inSync
  | turn run turn ih =>
    obtain ⟨_, _, outcome⟩ := (converging.of_run placed run).outcome_of_turn placed turn
    exact outcome.inSync ih

theorem created_of_run {first last : Fleet} {log : List Exchange}
    (converging : first.Converging policy cluster parent initial) (placed : cluster.IsAt parent)
    (run : first.Run Prompt log last) (kind : Kind) :
    log.countP (Exchange.creates kind) = 0 ∨
      log.countP (Exchange.creates kind) = 1 ∧ last.contents.Holds (kind.place parent) := by
  induction run with
  | refl => exact .inl rfl
  | @turn log fleet last exchange run turn ih =>
    have reached := converging.of_run placed run
    obtain ⟨_, _, outcome⟩ := reached.outcome_of_turn placed turn
    cases exchange with
    | none =>
      rw [Option.toList_none, List.append_nil]
      exact ih.imp_right fun ⟨once, present⟩ => ⟨once, outcome.holds present⟩
    | some exchange =>
      rw [Option.toList_some, List.countP_append, List.countP_singleton]
      -- A second creation would need the place free again, but what was created is still there.
      by_cases creates : exchange.creates kind = true
      · have free : fleet.contents.object (kind.place parent) = none ∧
            last.contents.Holds (kind.place parent) := by
          obtain ⟨worker, member, next, -, step, -⟩ := turn.inversion
          have obeys := reached.obeys worker member
          cases step with
          | call served => exact free_of_creates placed obeys.1 served creates
        have never : log.countP (Exchange.creates kind) = 0 :=
          ih.resolve_right fun ⟨_, present⟩ => present free.1
        rw [if_pos creates, never]
        exact .inr ⟨rfl, free.2⟩
      · rw [if_neg creates]
        exact ih.imp_right fun ⟨once, present⟩ => ⟨once, outcome.holds present⟩

/-- Among passes that have all ended, one has ended well. A pass that was refused at one resource
left behind another that got past it, so that one could only be refused at a later resource, and
there are but three. -/
theorem exists_ok {fleet : Fleet} (converging : fleet.Converging policy cluster parent initial)
    (some : fleet.workers ≠ [])
    (finished : ∀ worker ∈ fleet.workers, ∃ result, worker.pass = .done result) :
    ∃ worker ∈ fleet.workers, ∃ hint, worker.pass = .done (.ok hint) := by
  by_contra none
  have refused : ∀ worker ∈ fleet.workers,
      ∃ kind : Kind, worker.memory (kind.place parent) = .uncertain := by
    intro worker member
    obtain ⟨result, ended⟩ := finished worker member
    have concludes := converging.obeys worker member
    rw [Worker.Obeys, ended, Pass.obeys_done] at concludes
    cases result with
    | ok hint => exact absurd ⟨worker, member, hint, ended⟩ none
    | error error =>
      obtain ⟨kind, uncertain | ⟨live, found, marked⟩⟩ := concludes
      · exact ⟨kind, uncertain⟩
      · have unmarked := ((converging.informed worker member kind).found live found).1
        rw [marked] at unmarked
        cases unmarked
  -- The induction is on the number of resources that are left after the one of a refusal.
  have impossible : ∀ (left : Nat) (kind : Kind), 3 ≤ kind.rank + left →
      ∀ worker ∈ fleet.workers, worker.memory (kind.place parent) ≠ .uncertain := by
    intro left
    induction left with
    | zero =>
      intro kind bound
      exact absurd kind.rank_lt (Nat.not_lt.2 bound)
    | succ left ih =>
      intro kind bound worker member uncertain
      obtain ⟨other, among, through⟩ := converging.refused worker member kind uncertain
      obtain ⟨later, uncertain'⟩ := refused other among
      have above : kind.rank < later.rank := by
        by_contra below
        exact (through later (Nat.not_lt.1 below)).not_uncertain uncertain'
      exact ih later (by omega) other among uncertain'
  obtain ⟨worker, member⟩ := List.exists_mem_of_ne_nil _ some
  obtain ⟨kind, uncertain⟩ := refused worker member
  exact impossible 3 kind (Nat.le_add_left 3 _) worker member uncertain

end Converging

theorem Run.length_workers {backend : Backend Contents} {first last : Fleet} {log : List Exchange}
    (run : first.Run backend log last) : last.workers.length = first.workers.length := by
  induction run with
  | refl => rfl
  | turn _ turn ih =>
    obtain ⟨step⟩ := turn
    simpa using ih

def upkeepOf (policy : Policy) (cluster : Cluster) (contents : Contents) (count : Nat) : Fleet :=
  ⟨contents, List.replicate count ⟨ensureCreated (nfs policy) cluster, .blank⟩⟩

theorem converging_upkeepOf (placed : cluster.IsAt parent) (enabled : cluster.nfsEnabled = true)
    {owner : OwnerReference} (owned : policy.scheme.controllerRef cluster.metadata = .ok owner)
    (unmarked : ∀ (kind : Kind) live, initial.object (kind.place parent) = some live →
      live.metadata.isDeleting = false) (count : Nat) :
    (upkeepOf policy cluster initial count).Converging policy cluster parent initial := by
  have fresh : ∀ worker ∈ (upkeepOf policy cluster initial count).workers,
      worker = ⟨ensureCreated (nfs policy) cluster, .blank⟩ :=
    fun _ member => List.eq_of_mem_replicate member
  refine ⟨?_, ?_, unmarked, fun _ => .inl rfl, ?_⟩
  · intro worker member
    rw [fresh worker member]
    exact ensureCreated_upkeep placed enabled owned
  · intro worker member kind
    rw [fresh worker member]
    exact .unread
  · intro worker member kind uncertain
    rw [fresh worker member] at uncertain
    cases uncertain

/-- Any number of passes for the same cluster, in any order of their steps, over stores that refuse
nothing but creations at taken places and replacements of another version: what is in sync stays in
sync, each kind is created at most once, and once all passes have ended, one has ended well and all
resources are in sync with the parent as their only owner. -/
theorem converges_of_run (placed : cluster.IsAt parent) {uid : String}
    (identified : cluster.metadata.uid = some uid) (enabled : cluster.nfsEnabled = true)
    (unmarked : ∀ (kind : Kind) live, initial.object (kind.place parent) = some live →
      live.metadata.isDeleting = false)
    {count : Nat} (positive : 0 < count) {log : List Exchange} {fleet : Fleet}
    (run : (upkeepOf policy cluster initial count).Run Prompt log fleet) :
    (∀ kind, fleet.contents.InSync policy cluster parent kind →
      ∀ further later, fleet.Run Prompt further later →
      later.contents.InSync policy cluster parent kind) ∧
    (∀ kind, log.countP (Exchange.creates kind) ≤ 1) ∧
    ((∀ worker ∈ fleet.workers, ∃ result, worker.pass = .done result) →
      (∃ worker ∈ fleet.workers, ∃ hint, worker.pass = .done (.ok hint)) ∧
      ∀ kind : Kind, ∃ live desired owner, fleet.contents.object (kind.place parent) = some live ∧
        kind.desired cluster policy.scheme policy.settings = .ok desired ∧
        live.drifted desired = false ∧
        policy.scheme.controllerRef cluster.metadata = .ok owner ∧
        owner.Controls policy.scheme cluster.metadata ∧ live.metadata.owners = [owner]) := by
  obtain ⟨owner, owned⟩ := policy.scheme.exists_controllerRef placed.name identified
  have start := converging_upkeepOf placed enabled owned unmarked count
  have converging := start.of_run placed run
  refine ⟨?_, ?_, fun finished => ?_⟩
  · intro kind inSync further later running
    exact converging.inSync_of_run placed running inSync
  · intro kind
    rcases start.created_of_run placed run kind with never | ⟨once, -⟩ <;> omega
  · have nonempty : fleet.workers ≠ [] := by
      have length : fleet.workers.length = count := by
        rw [run.length_workers, upkeepOf, List.length_replicate]
      exact List.ne_nil_of_length_pos (by omega)
    obtain ⟨worker, member, hint, ended⟩ := converging.exists_ok nonempty finished
    refine ⟨⟨worker, member, hint, ended⟩, fun kind => ?_⟩
    have settled : Settled policy cluster parent worker.memory kind := by
      have concludes := converging.obeys worker member
      rw [Worker.Obeys, ended, Pass.obeys_done] at concludes
      exact concludes kind
    obtain ⟨live, desired, kept, built, same⟩ := converging.settled member kind settled
    obtain ⟨controller, controlled, metadata⟩ := Kind.metadata_of_desired placed built
    refine ⟨live, desired, controller, kept, built, same, controlled,
      OwnerScheme.controllerRef_eq_ok_iff.1 controlled, ?_⟩
    rw [Managed.owners_eq_of_not_drifted same, metadata]
    rfl

/-- Two passes over the sample that both read its pool absent: one creates it, and then the servers
and the Service, while the other is refused. -/
theorem two_upkeeps_converge : ∃ log fleet,
    (upkeepOf ⟨⟨"v1", "StorageCluster"⟩, {}⟩ .sample .empty 2).Run Prompt log fleet ∧
    (∀ kind, log.countP (Exchange.creates kind) ≤ 1) ∧
    (∃ worker ∈ fleet.workers, ∃ error, worker.pass = .done (.error error)) ∧
    (∃ worker ∈ fleet.workers, ∃ hint, worker.pass = .done (.ok hint)) ∧
    ∀ kind : Kind,
      fleet.contents.InSync ⟨⟨"v1", "StorageCluster"⟩, {}⟩ .sample Cluster.sampleKey kind ∧
      (fleet.contents.object (kind.place Cluster.sampleKey)).map (·.metadata.owners) =
        some [⟨"v1", "StorageCluster", "ceph", "7c1f", some true, some true⟩] := by
  have begun := @Run.refl Prompt (upkeepOf ⟨⟨"v1", "StorageCluster"⟩, {}⟩ .sample .empty 2)
  have read := begun.turn (.head (.call (.accepted (.get .blockPool _))))
  have readToo := read.turn (.tail _ (.head (.call (.accepted (.get .blockPool _)))))
  have announced := readToo.turn (.head .report)
  have pool := announced.turn (.head (.call (.accepted (.create {} rfl (Set.notMem_empty "1")))))
  have announcedToo := pool.turn (.tail _ (.head .report))
  have refused := announcedToo.turn
    (.tail _ (.head (.call (.occupied .missingState (Contents.holds_store _ _ _)))))
  have readExporter := refused.turn (.head (.call (.accepted (.get .exporter _))))
  have exporterAnnounced := readExporter.turn (.head .report)
  have exporter :=
    exporterAnnounced.turn (.head (.call (.accepted (.create {} rfl (Set.notMem_empty "1")))))
  have readService := exporter.turn (.head (.call (.accepted (.get .service _))))
  have serviceAnnounced := readService.turn (.head .report)
  have service :=
    serviceAnnounced.turn (.head (.call (.accepted (.create {} rfl (Set.notMem_empty "1")))))
  have unmarked : ∀ (kind : Kind) live,
      Contents.empty.object (kind.place Cluster.sampleKey) = some live →
      live.metadata.isDeleting = false := by rintro kind live ⟨⟩
  obtain ⟨-, once, ended⟩ :=
    converges_of_run Cluster.sample_isAt rfl rfl unmarked (by decide) service
  obtain ⟨wellEnded, inSync⟩ := ended <| by
    rintro worker (_ | ⟨_, _ | ⟨_, ⟨⟩⟩⟩)
    · exact ⟨_, rfl⟩
    · exact ⟨_, rfl⟩
  refine ⟨_, _, service, once, ?_, wellEnded, fun kind => ?_⟩
  · exact ⟨_, List.mem_cons_of_mem _ List.mem_cons_self, _, rfl⟩
  · obtain ⟨live, desired, owner, kept, built, same, -, controls, owners⟩ := inSync kind
    refine ⟨⟨live, desired, kept, built, same⟩, ?_⟩
    obtain ⟨apiVersion, type, name, uid, controller, blocks⟩ := controls
    cases owner
    simp_all [Cluster.sample]

end Fleet

end CephExport
