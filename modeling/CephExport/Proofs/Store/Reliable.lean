import CephExport.Proofs.Pass.History
import CephExport.Proofs.Store.Server
import Mathlib.Data.String.Basic
import Mathlib.Data.Set.Finite.Basic

/-!
Stores that fail no call without need, and functions that answer calls as a store does. Whatever a
pass makes of the answers of such a function, the store has served its history.
-/

set_option autoImplicit false
set_option relaxedAutoImplicit false

namespace CephExport

/-- A store that fails a call only if there is no reply with which it could accept it. -/
inductive Reliable {σ : Type} (accepts : σ → (call : Call) → call.Reply → σ → Prop) : Backend σ
  | accepted {before after : σ} {call : Call} {reply : call.Reply}
      (taken : accepts before call reply after) : Reliable accepts before call (.ok reply) after
  | refused {before : σ} {call : Call} (error : OperatorError)
      (impossible : ∀ reply after, ¬accepts before call reply after) :
      Reliable accepts before call (.error error) before

namespace Reliable

variable {σ : Type} {accepts : σ → (call : Call) → call.Reply → σ → Prop} {before after : σ}
  {call : Call} {answer : call.Answer}

theorem unreliable (served : Reliable accepts before call answer after) :
    Unreliable accepts before call answer after := by
  cases served with
  | accepted taken => exact .accepted taken
  | refused error _ => exact .failed error

theorem reply_of_possible (served : Reliable accepts before call answer after)
    (possible : ∃ reply after, accepts before call reply after) :
    ∃ reply, answer = .ok reply ∧ accepts before call reply after := by
  cases served with
  | accepted taken => exact ⟨_, rfl, taken⟩
  | refused _ impossible =>
    obtain ⟨reply, after, taken⟩ := possible
    exact absurd taken (impossible reply after)

theorem exists_answer (accepts : σ → (call : Call) → call.Reply → σ → Prop) (before : σ)
    (call : Call) : ∃ answer after, Reliable accepts before call answer after := by
  by_cases possible : ∃ reply after, accepts before call reply after
  · obtain ⟨reply, after, taken⟩ := possible
    exact ⟨.ok reply, after, .accepted taken⟩
  · refine ⟨.error (.store "refused"), before, .refused _ ?_⟩
    exact fun reply after taken => possible ⟨reply, after, taken⟩

end Reliable

/-- A function that answers calls as a backend does; its states may hold more than the backend knows
of. -/
structure Implementation {τ : Type} (backend : Backend τ) (σ : Type) where
  view : σ → τ
  answer : (call : Call) → σ → call.Answer × σ
  serves : ∀ call state,
    backend (view state) call (answer call state).1 (view (answer call state).2)

namespace Implementation

variable {σ τ α : Type} {backend : Backend τ}

theorem serves_history (server : Implementation backend σ) (pass : Pass α) (state : σ) :
    backend.Serves (server.view state) (pass.history server.answer state)
      (server.view (pass.run server.answer state).state) := by
  induction pass generalizing state with
  | done result => exact .nil _
  | report event rest ih => exact ih state
  | ask call rest ih => exact .cons (server.serves call state) (ih _ _)

noncomputable def choosing
    (total : ∀ before call, ∃ answer after, backend before call answer after) :
    Implementation backend τ where
  view := id
  answer call state := ⟨(total state call).choose, (total state call).choose_spec.choose⟩
  serves call state := (total state call).choose_spec.choose_spec

end Implementation

namespace Contents

/-- Only so many versions were given out at each place, so there are new ones. -/
def Renewable (contents : Contents) : Prop := ∀ place, (contents.issued place).Finite

variable {before after : Contents} {kind : Kind} {key : ObjectKey}

theorem Renewable.exists_fresh (renewable : before.Renewable) (place : Place) :
    ∃ version, version ∉ before.issued place := (renewable place).exists_notMem

theorem renewable_empty : empty.Renewable := fun _ => Set.finite_empty

theorem Renewable.store (renewable : before.Renewable) (place : Place) (object : Managed place.kind)
    (version : String) : (before.store place object version).Renewable := by
  intro other
  by_cases same : other = place
  · subst same
    rw [store_issued_self]
    exact (renewable other).insert version
  · rw [store_issued_of_ne _ _ _ same]
    exact renewable other

theorem Renewable.remove (renewable : before.Renewable) (place : Place) :
    (before.remove place).Renewable := renewable

theorem Renewable.of_accepts {call : Call} {reply : call.Reply} (renewable : before.Renewable)
    (taken : before.Accepts call reply after) : after.Renewable := by
  cases taken with
  | get | alreadyMarked => exact renewable
  | create | replace | mark => exact renewable.store _ _ _
  | remove => exact renewable.remove _

theorem Renewable.of_served {call : Call} {answer : call.Answer} (renewable : before.Renewable)
    (served : Unreliable Contents.Accepts before call answer after) : after.Renewable := by
  rcases served.effect with rfl | ⟨reply, taken⟩
  · exact renewable
  · exact renewable.of_accepts taken

theorem accepts_get {reply : (Call.get kind key).Reply} :
    before.Accepts (.get kind key) reply after ↔
      reply = before.object ⟨kind, key⟩ ∧ after = before := by
  constructor
  · rintro ⟨⟩
    exact ⟨rfl, rfl⟩
  · rintro ⟨rfl, rfl⟩
    exact .get kind key

end Contents

namespace Reliable

variable {before after : Contents} {kind : Kind} {key : ObjectKey} {object : Managed kind}

theorem reading {σ : Type} {accepts : σ → (call : Call) → call.Reply → σ → Prop} {before after : σ}
    {answer : (Call.get kind key).Answer} {kept : Option (Managed kind)}
    (only : ∀ reply after, accepts before (.get kind key) reply after ↔
      reply = kept ∧ after = before)
    (served : Reliable accepts before (.get kind key) answer after) :
    answer = .ok kept ∧ after = before := by
  obtain ⟨reply, rfl, taken⟩ := served.reply_of_possible ⟨_, _, (only _ _).2 ⟨rfl, rfl⟩⟩
  obtain ⟨rfl, rfl⟩ := (only _ _).1 taken
  exact ⟨rfl, rfl⟩

theorem reading_first {σ : Type} {accepts : σ → (call : Call) → call.Reply → σ → Prop}
    {before after : σ} {answer : (Call.get kind key).Answer} {kept : Option (Managed kind)}
    {rest : List Exchange} (only : ∀ reply after, accepts before (.get kind key) reply after ↔
      reply = kept ∧ after = before)
    (served : (Reliable accepts).Serves before (⟨.get kind key, answer⟩ :: rest) after) :
    answer = .ok kept ∧ (Reliable accepts).Serves before rest after := by
  obtain ⟨between, read, later⟩ := Backend.serves_cons_iff.1 served
  obtain ⟨told, rfl⟩ := reading only read
  exact ⟨told, later⟩

theorem found_first {σ : Type} {accepts : σ → (call : Call) → call.Reply → σ → Prop}
    {before after : σ} {found kept : Option (Managed kind)} {rest : List Exchange}
    (only : ∀ reply after, accepts before (.get kind key) reply after ↔
      reply = kept ∧ after = before)
    (served : (Reliable accepts).Serves before (⟨.get kind key, .ok found⟩ :: rest) after) :
    kept = found ∧ (Reliable accepts).Serves before rest after := by
  obtain ⟨told, later⟩ := reading_first only served
  exact ⟨(Except.ok.inj told).symm, later⟩

theorem creation {answer : (Call.create kind key.namespace object).Answer}
    (named : object.metadata.displayName = key.name) (renewable : before.Renewable)
    (free : before.object ⟨kind, key⟩ = none)
    (served : Reliable Contents.Accepts before (.create kind key.namespace object) answer after) :
    ∃ identity version, answer = .ok ((object.identified identity).atVersion version) ∧
      after = before.store ⟨kind, key⟩ (object.identified identity) version := by
  obtain ⟨«namespace», name⟩ := key
  simp only at named
  subst named
  obtain ⟨version, fresh⟩ := renewable.exists_fresh ⟨kind, «namespace», object.metadata.displayName⟩
  obtain ⟨reply, rfl, taken⟩ := served.reply_of_possible ⟨_, _, .create {} free fresh⟩
  cases taken with
  | create identity _ _ => exact ⟨identity, _, rfl, rfl⟩

theorem replacement {live : Managed kind} {answer : (Call.replace kind key object).Answer}
    (renewable : before.Renewable) (kept : before.object ⟨kind, key⟩ = some live)
    (same : live.metadata.resourceVersion = object.metadata.resourceVersion)
    (served : Reliable Contents.Accepts before (.replace kind key object) answer after) :
    ∃ version, answer = .ok (object.atVersion version) ∧
      after = before.store ⟨kind, key⟩ object version := by
  obtain ⟨version, fresh⟩ := renewable.exists_fresh ⟨kind, key⟩
  obtain ⟨reply, rfl, taken⟩ := served.reply_of_possible ⟨_, _, .replace kept same fresh⟩
  cases taken with
  | replace => exact ⟨_, rfl, rfl⟩

end Reliable

namespace Backend.Serves

variable {before after : Contents} {exchanges : List Exchange}

theorem object_eq (served : (Unreliable Contents.Accepts).Serves before exchanges after)
    {place : Place} (elsewhere : ∀ exchange ∈ exchanges, ¬exchange.Concerns place) :
    after.object place = before.object place := by
  induction served with
  | nil => rfl
  | cons served _ ih =>
    obtain ⟨here, later⟩ := List.forall_mem_cons.1 elsewhere
    rw [ih later, served.object_of_ne here]

theorem object_eq_of_about {kind other : Kind} {parent : ObjectKey}
    (served : (Unreliable Contents.Accepts).Serves before exchanges after)
    (different : other ≠ kind) (about : ∀ exchange ∈ exchanges, exchange.About kind) :
    after.object (other.place parent) = before.object (other.place parent) := by
  refine served.object_eq fun exchange member concerns => different ?_
  exact concerns.about.unique (about exchange member)

theorem renewable (served : (Unreliable Contents.Accepts).Serves before exchanges after)
    (renewable : before.Renewable) : after.Renewable := by
  induction served with
  | nil => exact renewable
  | cons served _ ih => exact ih (renewable.of_served served)

end Backend.Serves

end CephExport
