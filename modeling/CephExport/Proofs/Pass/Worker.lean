import CephExport.Proofs.Store.Contents

/-!
Passes as they are carried out one call at a time, so that anything may happen between two calls.
-/

set_option autoImplicit false
set_option relaxedAutoImplicit false

namespace CephExport

structure Exchange where
  call : Call
  answer : call.Answer

theorem Memory.found_of_learn {memory : Memory} {call : Call} {answer : call.Answer} {place : Place}
    {live : Managed place.kind} (h : memory.learn call answer place = .found live) :
    memory place = .found live ∨
      (⟨call, answer⟩ : Exchange) = ⟨.get place.kind place.key, .ok (some live)⟩ := by
  by_cases here : call.place? = some place
  · right
    cases call with
    | get kind key =>
      obtain rfl := Option.some.inj here
      rw [learn, note_self] at h
      rcases answer with error | (_ | read)
      · cases h
      · cases h
      · obtain rfl := Standing.found.inj h
        rfl
    | create kind «namespace» object =>
      obtain rfl := Option.some.inj here
      rw [learn, note_self] at h
      cases answer <;> cases h
    | replace kind key object =>
      obtain rfl := Option.some.inj here
      rw [learn, note_self] at h
      cases answer <;> cases h
    | delete kind key =>
      obtain rfl := Option.some.inj here
      rw [learn, note_self] at h
      cases h
    | setPhase => cases here
    | addFinalizer => cases here
    | removeFinalizer => cases here
  · left
    rwa [learn_of_ne memory here] at h

/-- A pass under way and what it has learnt so far. What it does next depends on the pass alone. -/
structure Worker (α : Type) where
  pass : Pass α
  memory : Memory := .blank

namespace Worker

variable {α σ : Type} {backend : Backend σ} {rule : Memory → Call → Prop}
  {goal : Memory → Except OperatorError α → Prop}

inductive Step (backend : Backend σ) : Worker α → σ → Option Exchange → Worker α → σ → Prop
  | report {event : Event} {rest : Pass α} {memory : Memory} {state : σ} :
      Step backend ⟨.report event rest, memory⟩ state none ⟨rest, memory⟩ state
  | call {call : Call} {rest : call.Answer → Pass α} {memory : Memory} {before after : σ}
      {answer : call.Answer}
      (served : backend before call answer after) :
      Step backend ⟨.ask call rest, memory⟩ before (some ⟨call, answer⟩)
        ⟨rest answer, memory.learn call answer⟩ after

def Obeys (rule : Memory → Call → Prop) (goal : Memory → Except OperatorError α → Prop)
    (worker : Worker α) : Prop :=
  worker.pass.Obeys rule goal worker.memory

theorem Step.obeys {worker next : Worker α} {before after : σ} {exchange : Option Exchange}
    (step : Step backend worker before exchange next after) (h : worker.Obeys rule goal) :
    next.Obeys rule goal := by
  cases step with
  | report => exact h
  | call _ => exact h.2 _

end Worker

end CephExport
