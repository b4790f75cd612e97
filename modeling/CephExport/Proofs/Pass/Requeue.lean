import CephExport.Requeue
import Mathlib.Algebra.BigOperators.Group.List.Basic
import Mathlib.Data.Prod.Lex
import Mathlib.Order.Bounds.Basic

/-!
What a merged hint says of the hints that went into it: another pass is wanted just if one of them
wants it, and then as soon as the most urgent one does.
-/

set_option autoImplicit false
set_option relaxedAutoImplicit false

namespace CephExport

namespace Duration

def parts (duration : Duration) : ℕ ×ₗ ℕ := toLex (duration.secs.toNat, duration.nanos.toNat)

theorem parts_injective : Function.Injective parts := by
  rintro ⟨secs, nanos⟩ ⟨secs', nanos'⟩ same
  obtain ⟨seconds, fractions⟩ := Prod.mk.inj (toLex.injective same)
  obtain rfl : secs = secs' := UInt64.toNat_inj.1 seconds
  obtain rfl : nanos = nanos' := UInt32.toNat_inj.1 fractions
  rfl

instance : LinearOrder Duration := LinearOrder.lift' parts parts_injective

theorem shorter_iff_lt {a b : Duration} : a.shorter b = true ↔ a < b := by
  have order : a < b ↔ a.secs.toNat < b.secs.toNat ∨
      a.secs.toNat = b.secs.toNat ∧ a.nanos.toNat < b.nanos.toNat :=
    Prod.Lex.toLex_lt_toLex
  rw [order, shorter]
  simp only [Bool.or_eq_true, Bool.and_eq_true, decide_eq_true_eq, beq_iff_eq,
    UInt64.lt_iff_toNat_lt, UInt32.lt_iff_toNat_lt, UInt64.toNat_inj]

theorem min_eq_min (a b : Duration) : a.min b = Min.min a b := by
  rw [Duration.min]
  by_cases sooner : b.shorter a = true
  · rw [if_pos sooner, min_eq_right (shorter_iff_lt.1 sooner).le]
  · have notSooner : ¬b < a := fun less => sooner (shorter_iff_lt.2 less)
    rw [if_neg sooner, min_eq_left (not_lt.1 notSooner)]

end Duration

namespace RequeueHint

def requested (hints : List RequeueHint) : Set Duration := {after | passAfter after ∈ hints}

theorem requested_append (first second : List RequeueHint) :
    requested (first ++ second) = requested first ∪ requested second :=
  Set.ext fun _ => List.mem_append

/-- A hint says what some hints say together: it wants another pass just if one of them does, and
after the least of the durations that they want. -/
structure SumsUp (hint : RequeueHint) (hints : List RequeueHint) : Prop where
  requeue : hint.requeue = true ↔ (requested hints).Nonempty
  after : hint.requeue = true → IsLeast (requested hints) hint.after

variable {hint next : RequeueHint} {hints others : List RequeueHint}

theorem requested_singleton_of_requeue (wanted : hint.requeue = true) :
    requested [hint] = {hint.after} := by
  obtain ⟨requeue, after⟩ := hint
  obtain rfl : requeue = true := wanted
  ext duration
  simp [requested, passAfter]

theorem requested_singleton_of_not_requeue (unwanted : hint.requeue = false) :
    requested [hint] = ∅ := by
  obtain ⟨requeue, after⟩ := hint
  obtain rfl : requeue = false := unwanted
  ext duration
  simp [requested, passAfter]

theorem sumsUp_done : done.SumsUp [] where
  requeue := by simp [done, requested]
  after := nofun

theorem sumsUp_singleton (hint : RequeueHint) : hint.SumsUp [hint] := by
  cases wanted : hint.requeue with
  | true =>
    have alone := requested_singleton_of_requeue wanted
    exact ⟨by simp [alone, wanted], fun _ => by simp [alone]⟩
  | false =>
    have none := requested_singleton_of_not_requeue wanted
    exact ⟨by simp [none, wanted], by simp [wanted]⟩

theorem SumsUp.requested_eq_empty (sum : hint.SumsUp hints) (unwanted : hint.requeue = false) :
    requested hints = ∅ := by
  by_contra some
  have wanted := sum.requeue.2 (Set.nonempty_iff_ne_empty.2 some)
  exact Bool.false_ne_true (unwanted.symm.trans wanted)

theorem SumsUp.merge (sum : hint.SumsUp hints) (later : next.SumsUp others) :
    (hint.merge next).SumsUp (hints ++ others) := by
  have whole := requested_append hints others
  rw [RequeueHint.merge]
  cases wanted : hint.requeue with
  | false =>
    rw [sum.requested_eq_empty wanted, Set.empty_union] at whole
    rw [if_neg Bool.false_ne_true]
    exact ⟨by rw [whole, later.requeue], by simpa only [whole] using later.after⟩
  | true =>
    rw [if_pos rfl]
    cases alsoWanted : next.requeue with
    | false =>
      rw [later.requested_eq_empty alsoWanted, Set.union_empty] at whole
      rw [if_neg Bool.false_ne_true]
      exact ⟨by rw [whole, sum.requeue], by simpa only [whole] using sum.after⟩
    | true =>
      have least := (sum.after wanted).union (later.after alsoWanted)
      rw [← whole, ← Duration.min_eq_min] at least
      rw [if_pos rfl]
      exact ⟨⟨fun _ => least.nonempty, fun _ => rfl⟩, fun _ => least⟩

theorem SumsUp.foldl (sum : hint.SumsUp hints) (others : List RequeueHint) :
    (others.foldl RequeueHint.merge hint).SumsUp (hints ++ others) := by
  induction others generalizing hint hints with
  | nil => simpa using sum
  | cons next rest ih =>
    have further := ih (sum.merge (sumsUp_singleton next))
    rwa [List.append_assoc] at further

/-- The action for a hint that sums up some others: the next pass comes after the least duration
that they ask for, or where they ask for none, after the time to the next resync. -/
theorem SumsUp.toAction (sum : hint.SumsUp hints) (resync : Duration) :
    (∃ after, IsLeast (requested hints) after ∧ hint.toAction resync = .requeueAfter after) ∨
      (requested hints = ∅ ∧ hint.toAction resync = .requeueAfter resync) := by
  cases wanted : hint.requeue with
  | true => exact .inl ⟨hint.after, sum.after wanted, by rw [RequeueHint.toAction, if_pos wanted]⟩
  | false =>
    refine .inr ⟨sum.requested_eq_empty wanted, ?_⟩
    rw [RequeueHint.toAction, if_neg (wanted ▸ Bool.false_ne_true)]

theorem SumsUp.perm (sum : hint.SumsUp hints) (order : hints.Perm others) : hint.SumsUp others := by
  have same : requested hints = requested others := Set.ext fun _ => order.mem_iff
  exact ⟨same ▸ sum.requeue, same ▸ sum.after⟩

/-! ### Hints up to the action that they lead to -/

def wish (hint : RequeueHint) : Option Duration := if hint.requeue then some hint.after else none

theorem wish_done : done.wish = none := rfl

theorem wish_merge (first second : RequeueHint) :
    (first.merge second).wish = Option.merge min first.wish second.wish := by
  obtain ⟨requeue, after⟩ := first
  obtain ⟨requeue', after'⟩ := second
  cases requeue <;> cases requeue' <;> simp [RequeueHint.merge, wish, Option.merge,
    Duration.min_eq_min]

theorem toAction_eq (hint : RequeueHint) (resync : Duration) :
    hint.toAction resync = .requeueAfter (hint.wish.getD resync) := by
  obtain ⟨requeue, after⟩ := hint
  cases requeue <;> rfl

/-- Two hints lead to the same action, whatever the time to the next resync is. -/
def actsAlike : Setoid RequeueHint where
  r first second := ∀ resync, first.toAction resync = second.toAction resync
  iseqv := ⟨fun _ _ => rfl, fun same resync => (same resync).symm,
    fun same same' resync => (same resync).trans (same' resync)⟩

/-- No wish acts like a wish, since some other resync would tell them apart. -/
theorem actsAlike_iff {first second : RequeueHint} :
    actsAlike first second ↔ first.wish = second.wish := by
  have resyncs : (actsAlike first second) ↔ ∀ resync,
      first.wish.getD resync = second.wish.getD resync :=
    forall_congr' fun resync => by rw [toAction_eq, toAction_eq, Action.requeueAfter.injEq]
  have noneAlike : ∀ after : Duration, ¬∀ resync, after = resync := fun after same =>
    absurd ((same (.ofSecs 0)).symm.trans (same (.ofSecs 1))) (by decide)
  rw [resyncs]
  refine ⟨fun same => ?_, fun same resync => by rw [same]⟩
  cases wanted : first.wish with
  | none =>
    cases alsoWanted : second.wish with
    | none => rfl
    | some after =>
      rw [wanted, alsoWanted] at same
      exact absurd (fun resync => (same resync).symm) (noneAlike after)
  | some after =>
    cases alsoWanted : second.wish with
    | none =>
      rw [wanted, alsoWanted] at same
      exact absurd same (noneAlike after)
    | some after' =>
      rw [wanted, alsoWanted] at same
      exact congrArg some (same default)

theorem merge_actsAlike {first first' second second' : RequeueHint} (same : actsAlike first first')
    (same' : actsAlike second second') : actsAlike (first.merge second) (first'.merge second') := by
  rw [actsAlike_iff] at same same' ⊢
  rw [wish_merge, wish_merge, same, same']

/-- Hints, told apart only by the actions that they lead to. -/
def Urgency : Type := Quotient actsAlike

def urgency (hint : RequeueHint) : Urgency := Quotient.mk actsAlike hint

theorem urgency_eq_iff {first second : RequeueHint} :
    first.urgency = second.urgency ↔ ∀ resync, first.toAction resync = second.toAction resync :=
  Quotient.eq (r := actsAlike)

theorem urgency_eq_of_wish {first second : RequeueHint} (same : first.wish = second.wish) :
    first.urgency = second.urgency :=
  urgency_eq_iff.2 (actsAlike_iff.2 same)

/-- Merging is commutative only here: of two hints that ask for nothing the second is kept, with
whatever time it names. -/
instance : CommMonoid Urgency where
  mul := Quotient.map₂ RequeueHint.merge fun _ _ same _ _ same' => merge_actsAlike same same'
  one := urgency done
  mul_assoc := by
    rintro ⟨a⟩ ⟨b⟩ ⟨c⟩
    exact urgency_eq_of_wish (by simp only [wish_merge, Std.Associative.assoc])
  one_mul := by
    rintro ⟨a⟩
    exact urgency_eq_of_wish (by rw [wish_merge, wish_done, Option.merge_none_left])
  mul_one := by
    rintro ⟨a⟩
    exact urgency_eq_of_wish (by rw [wish_merge, wish_done, Option.merge_none_right])
  mul_comm := by
    rintro ⟨a⟩ ⟨b⟩
    have swapped : Option.merge min a.wish b.wish = Option.merge min b.wish a.wish :=
      Std.Commutative.comm _ _
    exact urgency_eq_of_wish (by rw [wish_merge, wish_merge, swapped])

theorem urgency_merge (first second : RequeueHint) :
    (first.merge second).urgency = first.urgency * second.urgency := rfl

theorem urgency_done : done.urgency = 1 := rfl

/-! ### Merging in any order and under any brackets -/

/-- A way to merge hints two at a time, with hints put in anywhere that ask for nothing. -/
inductive Merging
  | idle
  | one (hint : RequeueHint)
  | both (first second : Merging)

namespace Merging

def leaves : Merging → List RequeueHint
  | idle => []
  | one hint => [hint]
  | both first second => first.leaves ++ second.leaves

def outcome : Merging → RequeueHint
  | idle => done
  | one hint => hint
  | both first second => first.outcome.merge second.outcome

theorem outcome_sumsUp (merging : Merging) : merging.outcome.SumsUp merging.leaves := by
  induction merging with
  | idle => exact sumsUp_done
  | one hint => exact sumsUp_singleton hint
  | both first second ih ih' => exact ih.merge ih'

theorem urgency_outcome (merging : Merging) :
    merging.outcome.urgency = (merging.leaves.map urgency).prod := by
  induction merging with
  | idle => exact urgency_done
  | one hint => simp only [outcome, leaves, List.map_cons, List.map_nil, List.prod_singleton]
  | both first second ih ih' =>
    simp only [outcome, leaves, List.map_append, List.prod_append]
    rw [urgency_merge, ih, ih']

end Merging

/-- Up to the action that follows, hints are a commutative monoid under merging: in whichever order
some are merged, under whichever brackets and with whichever number of hints put in that ask for
nothing, the outcome is their product, and the next pass comes after the least duration that one of
them asks for, or where none asks for a pass, after the time to the next resync. -/
theorem merging_acts_as_soonest {hints : List RequeueHint} {merging : Merging}
    (order : merging.leaves.Perm hints) :
    merging.outcome.urgency = (hints.map urgency).prod ∧ ∀ resync,
      (∃ after, IsLeast (requested hints) after ∧
        merging.outcome.toAction resync = .requeueAfter after) ∨
        (requested hints = ∅ ∧ merging.outcome.toAction resync = .requeueAfter resync) := by
  refine ⟨?_, (merging.outcome_sumsUp.perm order).toAction⟩
  rw [merging.urgency_outcome]
  exact (order.map urgency).prod_eq

def sampleHints : List RequeueHint :=
  [passAfter (.ofSecs 30), ⟨false, .ofSecs 2⟩, passAfter (.ofSecs 5), ⟨false, .ofSecs 1⟩]

def sampleMerging : Merging :=
  .both (.both (.one ⟨false, .ofSecs 1⟩) .idle)
    (.both (.one (passAfter (.ofSecs 5)))
      (.both (.one (passAfter (.ofSecs 30))) (.one ⟨false, .ofSecs 2⟩)))

theorem sampleMerging_acts_as_soonest : sampleMerging.leaves.Perm sampleHints ∧
    ∀ resync, sampleMerging.outcome.toAction resync = .requeueAfter (.ofSecs 5) := by
  have order : sampleMerging.leaves.Perm sampleHints := by decide
  have soonest : IsLeast (requested sampleHints) (.ofSecs 5) := by
    refine ⟨by simp [requested, sampleHints], fun after asked => ?_⟩
    have either : after = .ofSecs 30 ∨ after = .ofSecs 5 := by
      simpa [requested, sampleHints, passAfter] using asked
    obtain rfl | rfl := either <;> decide
  refine ⟨order, fun resync => ?_⟩
  obtain ⟨after, least, acts⟩ | ⟨none, -⟩ := (merging_acts_as_soonest order).2 resync
  · rw [acts, least.unique soonest]
  · exact absurd none soonest.nonempty.ne_empty

end RequeueHint

end CephExport
