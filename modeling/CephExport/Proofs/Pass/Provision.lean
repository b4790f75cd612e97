import CephExport.Proofs.Pass.Course

/-!
What the pass that creates an object does, told from the answer to its reading, and the other way
round what it has read if it created or replaced an object.
-/

set_option autoImplicit false
set_option relaxedAutoImplicit false

namespace CephExport

namespace Kind

namespace Provision

variable {kind : Kind} {key : ObjectKey} {desired live : Managed kind} {exchanges : List Exchange}
  {events : List Event} {result : Except OperatorError RequeueHint}

theorem found_inj {found other : Except OperatorError (Option (Managed kind))}
    (same : some (⟨.get kind key, found⟩ : Exchange) = some ⟨.get kind key, other⟩) :
    found = other :=
  eq_of_heq (Exchange.mk.inj (Option.some.inj same)).2

section

variable (course : Provision kind key desired exchanges events result)
include course

theorem of_inSync (first : exchanges.head? = some ⟨.get kind key, .ok (some live)⟩)
    (unmarked : live.metadata.isDeleting = false) (same : live.drifted desired = false) :
    exchanges = [⟨.get kind key, .ok (some live)⟩] ∧
      events = live.driftNotices desired ++ [kind.event key .inSync] ∧ result = .ok .done := by
  cases course with
  | unread | notCreated | created => cases found_inj first
  | inSync =>
    cases found_inj first
    exact ⟨rfl, rfl, rfl⟩
  | pending marked =>
    cases found_inj first
    rw [unmarked] at marked
    cases marked
  | notReplaced _ _ drifted | replaced _ _ drifted =>
    cases found_inj first
    rw [same] at drifted
    cases drifted

theorem of_drifted (first : exchanges.head? = some ⟨.get kind key, .ok (some live)⟩)
    (unmarked : live.metadata.isDeleting = false) (drifted : live.drifted desired = true) :
    ∃ reply, (⟨.replace kind key (live.merge desired), reply⟩ : Exchange) ∈ exchanges := by
  cases course with
  | unread | notCreated | created => cases found_inj first
  | pending marked =>
    cases found_inj first
    rw [unmarked] at marked
    cases marked
  | inSync _ same =>
    cases found_inj first
    rw [drifted] at same
    cases same
  | notReplaced | replaced =>
    cases found_inj first
    exact ⟨_, List.mem_cons_of_mem _ List.mem_cons_self⟩

theorem head?_of_created {reply : (Call.create kind key.namespace desired).Answer}
    (made : (⟨.create kind key.namespace desired, reply⟩ : Exchange) ∈ exchanges) :
    exchanges.head? = some ⟨.get kind key, .ok none⟩ := by
  cases course with
  | notCreated | created => rfl
  | unread | pending | inSync | notReplaced | replaced => simp at made

theorem head?_of_replaced {place : ObjectKey} {object : Managed kind}
    {reply : (Call.replace kind place object).Answer}
    (replaced : (⟨.replace kind place object, reply⟩ : Exchange) ∈ exchanges) :
    place = key ∧ ∃ live : Managed kind, exchanges.head? = some ⟨.get kind key, .ok (some live)⟩ ∧
      object = live.merge desired := by
  cases course with
  | unread | pending | inSync | notCreated | created => simp at replaced
  | notReplaced | replaced =>
    simp only [List.mem_cons, Exchange.mk.injEq, reduceCtorEq, Call.replace.injEq,
      heq_eq_eq, false_and, List.not_mem_nil, or_false, false_or] at replaced
    obtain ⟨⟨-, rfl, rfl⟩, -⟩ := replaced
    exact ⟨rfl, _, rfl, rfl⟩

end

end Provision

section

variable {kind : Kind} {key : ObjectKey} {desired live : Managed kind} {σ : Type}
  {answer : (call : Call) → σ → call.Answer × σ} {state : σ}

theorem provision_run (answer : (call : Call) → σ → call.Answer × σ) (state : σ) (key : ObjectKey)
    (desired : Managed kind) :
    Provision kind key desired ((kind.createAt key desired).history answer state)
      ((kind.createAt key desired).run answer state).events
        ((kind.createAt key desired).run answer state).result :=
  provision_of_ends (Pass.ends_run answer (kind.createAt key desired) state)

theorem head?_history_createAt (answer : (call : Call) → σ → call.Answer × σ) (state : σ)
    (key : ObjectKey) (desired : Managed kind) :
    ((kind.createAt key desired).history answer state).head? =
      some ⟨.get kind key, (answer (.get kind key) state).1⟩ := rfl

theorem createAt_of_absent (desired : Managed kind)
    (found : (answer (.get kind key) state).1 = .ok none) :
    (kind.createAt key desired).history answer state =
      [⟨.get kind key, .ok none⟩, ⟨.create kind key.namespace desired,
        (answer (.create kind key.namespace desired) (answer (.get kind key) state).2).1⟩] ∧
    ((kind.createAt key desired).run answer state).state =
      (answer (.create kind key.namespace desired) (answer (.get kind key) state).2).2 := by
  have quiet : ∀ (answered : (Call.create kind key.namespace desired).Answer) (later : σ),
      let rest : Pass RequeueHint := (Pass.done answered).bind fun _ => pure .done
      rest.history answer later = [] ∧ (rest.run answer later).state = later := by
    rintro (_ | _) later <;> exact ⟨rfl, rfl⟩
  obtain ⟨last, stays⟩ := quiet
    (answer (.create kind key.namespace desired) (answer (.get kind key) state).2).1
    (answer (.create kind key.namespace desired) (answer (.get kind key) state).2).2
  constructor
  · change (Pass.ask (.get kind key) _).history answer state = _
    rw [Pass.history, found]
    exact congrArg (fun exchanges => _ :: _ :: exchanges) last
  · change ((Pass.ask (.get kind key) _).run answer state).state = _
    simp only [Pass.run, found]
    exact stays

theorem absent_of_created {reply : (Call.create kind key.namespace desired).Answer}
    (made : (⟨.create kind key.namespace desired, reply⟩ : Exchange) ∈
      (kind.createAt key desired).history answer state) :
    (answer (.get kind key) state).1 = .ok none := by
  have first := (provision_run answer state key desired).head?_of_created made
  rw [head?_history_createAt] at first
  exact Provision.found_inj first

theorem exists_found_of_replaced {place : ObjectKey} {object : Managed kind}
    {reply : (Call.replace kind place object).Answer}
    (replaced : (⟨.replace kind place object, reply⟩ : Exchange) ∈
      (kind.createAt key desired).history answer state) :
    place = key ∧ ∃ live, (answer (.get kind key) state).1 = .ok (some live) ∧
      object = live.merge desired := by
  obtain ⟨rfl, live, first, merged⟩ := (provision_run answer state key desired).head?_of_replaced
    replaced
  rw [head?_history_createAt] at first
  exact ⟨rfl, live, Provision.found_inj first, merged⟩

theorem createAt_of_inSync (found : (answer (.get kind key) state).1 = .ok (some live))
    (unmarked : live.metadata.isDeleting = false) (same : live.drifted desired = false) :
    (kind.createAt key desired).history answer state = [⟨.get kind key, .ok (some live)⟩] ∧
      ((kind.createAt key desired).run answer state).events =
        live.driftNotices desired ++ [kind.event key .inSync] ∧
      ((kind.createAt key desired).run answer state).result = .ok .done := by
  refine (provision_run answer state key desired).of_inSync ?_ unmarked same
  rw [head?_history_createAt, found]

theorem createAt_of_drifted (found : (answer (.get kind key) state).1 = .ok (some live))
    (unmarked : live.metadata.isDeleting = false) (drifted : live.drifted desired = true) :
    ∃ reply, (⟨.replace kind key (live.merge desired), reply⟩ : Exchange) ∈
      (kind.createAt key desired).history answer state := by
  refine (provision_run answer state key desired).of_drifted ?_ unmarked drifted
  rw [head?_history_createAt, found]

end

end Kind

end CephExport
