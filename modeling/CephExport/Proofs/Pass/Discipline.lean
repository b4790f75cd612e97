import CephExport.Reconcile.Pass
import Mathlib.Logic.Function.Basic

/-!
What a pass learns from the answers to its calls, and rules for the calls that it makes. A pass
obeys a rule if, whatever is answered to its calls, each next one is permitted by what it has learnt
so far, and what it has learnt at its end fits its result. Statements about stores and about passes
that run side by side need nothing else of a pass.
-/

set_option autoImplicit false
set_option relaxedAutoImplicit false

namespace CephExport

structure Place where
  kind : Kind
  key : ObjectKey
  deriving DecidableEq

/-- The place of the object that a call is about; clusters are not among these. -/
def Call.place? : Call → Option Place
  | .get kind key => some ⟨kind, key⟩
  | .create kind «namespace» object => some ⟨kind, «namespace», object.metadata.displayName⟩
  | .replace kind key _ => some ⟨kind, key⟩
  | .delete kind key => some ⟨kind, key⟩
  | .setPhase _ _ => none
  | .addFinalizer _ _ => none
  | .removeFinalizer _ _ => none

/-- What a pass knows of the object at a place. -/
inductive Standing (kind : Kind)
  /-- It has not been asked for. -/
  | unread
  /-- It was not there when it was read. -/
  | absent
  /-- It was there when it was read. -/
  | found (live : Managed kind)
  /-- It was created or replaced by the pass. -/
  | written
  /-- A call for it failed, or it was deleted. -/
  | uncertain

namespace Standing

def ofReading {kind : Kind} : Except OperatorError (Option (Managed kind)) → Standing kind
  | .ok none => absent
  | .ok (some live) => found live
  | .error _ => uncertain

def ofWriting {kind : Kind} : Except OperatorError (Managed kind) → Standing kind
  | .ok _ => written
  | .error _ => uncertain

inductive IsLive {kind : Kind} : Standing kind → Prop
  | found {live : Managed kind} (unmarked : live.metadata.isDeleting = false) : IsLive (found live)
  | written : IsLive written

end Standing

abbrev Memory := (place : Place) → Standing place.kind

namespace Memory

def blank : Memory := fun _ => .unread

def note (memory : Memory) (place : Place) (standing : Standing place.kind) : Memory :=
  Function.update memory place standing

@[simp] theorem note_self (memory : Memory) (place : Place) (standing : Standing place.kind) :
    memory.note place standing place = standing := by
  rw [note, Function.update_self]

theorem note_of_ne (memory : Memory) {place other : Place} (h : other ≠ place)
    (standing : Standing place.kind) : memory.note place standing other = memory other := by
  rw [note, Function.update_of_ne h]

@[simp] theorem note_note (memory : Memory) (place : Place) (first second : Standing place.kind) :
    (memory.note place first).note place second = memory.note place second := by
  simp only [note, Function.update_idem]

/-- What a pass knows after the answer to a call; of clusters it keeps nothing. -/
def learn (memory : Memory) : (call : Call) → call.Answer → Memory
  | .get kind key, answer => memory.note ⟨kind, key⟩ (Standing.ofReading answer)
  | .create kind «namespace» object, answer =>
    memory.note ⟨kind, «namespace», object.metadata.displayName⟩ (Standing.ofWriting answer)
  | .replace kind key _, answer => memory.note ⟨kind, key⟩ (Standing.ofWriting answer)
  | .delete kind key, _ => memory.note ⟨kind, key⟩ .uncertain
  | .setPhase _ _, _ => memory
  | .addFinalizer _ _, _ => memory
  | .removeFinalizer _ _, _ => memory

theorem learn_of_ne (memory : Memory) {call : Call} {place : Place}
    (elsewhere : call.place? ≠ some place)
    (answer : call.Answer) : memory.learn call answer place = memory place := by
  cases call with
  | get | create | replace | delete =>
    exact note_of_ne memory (fun same => elsewhere (congrArg some same.symm)) _
  | setPhase | addFinalizer | removeFinalizer => rfl

theorem learn_of_unplaced (memory : Memory) {call : Call} (unplaced : call.place? = none)
    (answer : call.Answer) :
    memory.learn call answer = memory := by
  funext place
  apply learn_of_ne
  rw [unplaced]
  rintro ⟨⟩

theorem learn_error (memory : Memory) {call : Call} {place : Place}
    (here : call.place? = some place)
    (error : OperatorError) : memory.learn call (.error error) place = .uncertain := by
  cases call with
  | get | create | replace | delete =>
    obtain rfl := Option.some.inj here
    exact note_self memory _ _
  | setPhase | addFinalizer | removeFinalizer => cases here

end Memory

namespace Pass

variable {α β : Type} {rule : Memory → Call → Prop} {memory : Memory}

/-- A pass obeys a rule from what is known at its start on: each call is permitted, and the end
meets the goal. -/
def Obeys (rule : Memory → Call → Prop) (goal : Memory → Except OperatorError α → Prop) :
    Memory → Pass α → Prop
  | memory, done result => goal memory result
  | memory, report _ rest => rest.Obeys rule goal memory
  | memory, ask call rest => rule memory call ∧
      ∀ answer, (rest answer).Obeys rule goal (memory.learn call answer)

def andThen (rule : Memory → Call → Prop) (goal : Memory → Except OperatorError β → Prop)
    (next : α → Pass β) (memory : Memory) : Except OperatorError α → Prop
  | .ok value => (next value).Obeys rule goal memory
  | .error error => goal memory (.error error)

section

variable {goal : Memory → Except OperatorError α → Prop}

@[simp] theorem obeys_done (result : Except OperatorError α) :
    (done result).Obeys rule goal memory ↔ goal memory result := Iff.rfl

@[simp] theorem obeys_pure (value : α) :
    (pure value : Pass α).Obeys rule goal memory ↔ goal memory (.ok value) := Iff.rfl

@[simp] theorem obeys_fail (error : OperatorError) :
    (fail error : Pass α).Obeys rule goal memory ↔ goal memory (.error error) := Iff.rfl

theorem Obeys.mono {rule' : Memory → Call → Prop} {goal' : Memory → Except OperatorError α → Prop}
    (permitted : ∀ memory call, rule memory call → rule' memory call)
    (met : ∀ memory result, goal memory result → goal' memory result) {pass : Pass α}
    (h : pass.Obeys rule goal memory) : pass.Obeys rule' goal' memory := by
  induction pass generalizing memory with
  | done result => exact met memory result h
  | report event rest ih => exact ih h
  | ask call rest ih => exact ⟨permitted memory call h.1, fun answer => ih answer (h.2 answer)⟩

end

variable {goal : Memory → Except OperatorError β → Prop}

@[simp] theorem obeys_bind (pass : Pass α) (next : α → Pass β) :
    (pass >>= next).Obeys rule goal memory ↔ pass.Obeys rule (andThen rule goal next) memory := by
  change (pass.bind next).Obeys rule goal memory ↔ _
  induction pass generalizing memory with
  | done result => cases result <;> rfl
  | report event rest ih => exact ih
  | ask call rest ih =>
    simp only [bind, Obeys]
    exact and_congr_right fun _ => forall_congr' fun answer => ih answer

@[simp] theorem andThen_ok (next : α → Pass β) (value : α) :
    andThen rule goal next memory (.ok value) ↔ (next value).Obeys rule goal memory := Iff.rfl

@[simp] theorem obeys_log {goal : Memory → Except OperatorError Unit → Prop} (event : Event) :
    (log event).Obeys rule goal memory ↔ goal memory (.ok ()) := Iff.rfl

@[simp] theorem obeys_logAll {goal : Memory → Except OperatorError Unit → Prop}
    (events : List Event) :
    (logAll events).Obeys rule goal memory ↔ goal memory (.ok ()) := by
  induction events with
  | nil => rfl
  | cons event rest ih => exact ih

@[simp] theorem obeys_attempt (call : Call)
    {goal : Memory → Except OperatorError call.Answer → Prop} :
    (attempt call).Obeys rule goal memory ↔
      rule memory call ∧ ∀ answer, goal (memory.learn call answer) (.ok answer) := Iff.rfl

@[simp] theorem obeys_perform (call : Call)
    {goal : Memory → Except OperatorError call.Reply → Prop} :
    (perform call).Obeys rule goal memory ↔
      rule memory call ∧ ∀ answer, goal (memory.learn call answer) answer := Iff.rfl

/-- After a call that must succeed the pass goes on with the reply, and ends with the error of one
that failed. -/
theorem obeys_perform_bind (call : Call) (next : call.Reply → Pass β) :
    (perform call >>= next).Obeys rule goal memory ↔
      rule memory call ∧ (∀ error, goal (memory.learn call (.error error)) (.error error)) ∧
      ∀ reply, (next reply).Obeys rule goal (memory.learn call (.ok reply)) := by
  rw [obeys_bind, obeys_perform]
  refine and_congr_right fun _ =>
    ⟨fun h => ⟨fun error => h (.error error), fun reply => h (.ok reply)⟩, ?_⟩
  rintro ⟨failed, went⟩ answer
  cases answer with
  | error error => exact failed error
  | ok reply => exact went reply

section

variable {kind : Kind} {key : ObjectKey}

theorem obeys_get_bind (next : Option (Managed kind) → Pass β) :
    (perform (.get kind key) >>= next).Obeys rule goal memory ↔
      rule memory (.get kind key) ∧
      (∀ error, goal (memory.note ⟨kind, key⟩ .uncertain) (.error error)) ∧
      (next none).Obeys rule goal (memory.note ⟨kind, key⟩ .absent) ∧
      ∀ live, (next (some live)).Obeys rule goal (memory.note ⟨kind, key⟩ (.found live)) := by
  rw [obeys_perform_bind, Option.forall]
  rfl

theorem obeys_create_bind {«namespace» : String} {object : Managed kind}
    (next : Managed kind → Pass β) :
    (perform (.create kind «namespace» object) >>= next).Obeys rule goal memory ↔
      rule memory (.create kind «namespace» object) ∧
      (∀ error, goal
        (memory.note ⟨kind, «namespace», object.metadata.displayName⟩ .uncertain) (.error error)) ∧
      ∀ reply, (next reply).Obeys rule goal
        (memory.note ⟨kind, «namespace», object.metadata.displayName⟩ .written) :=
  obeys_perform_bind (.create kind «namespace» object) next

theorem obeys_replace_bind {object : Managed kind} (next : Managed kind → Pass β) :
    (perform (.replace kind key object) >>= next).Obeys rule goal memory ↔
      rule memory (.replace kind key object) ∧
      (∀ error, goal (memory.note ⟨kind, key⟩ .uncertain) (.error error)) ∧
      ∀ reply, (next reply).Obeys rule goal (memory.note ⟨kind, key⟩ .written) :=
  obeys_perform_bind (.replace kind key object) next

end

end Pass

end CephExport
