import CephExport.Proofs.Store.Contents

/-!
What a pass that runs by itself has learnt holds of the store: what it has read absent is absent,
and what it has read unmarked or has written is there and unmarked. Objects that are marked may go
away meanwhile, which it never relies upon.
-/

set_option autoImplicit false
set_option relaxedAutoImplicit false

namespace CephExport

def Call.SubmitsUnmarked : Call → Prop
  | .create _ _ object => object.metadata.isDeleting = false
  | .replace _ _ object => object.metadata.isDeleting = false
  | _ => True

namespace Contents

def Holds (contents : Contents) (place : Place) : Prop := contents.object place ≠ none

def HoldsUnmarked (contents : Contents) (place : Place) : Prop :=
  ∃ live, contents.object place = some live ∧ live.metadata.isDeleting = false

/-- What a pass has learnt is so. -/
structure Confirms (contents : Contents) (memory : Memory) : Prop where
  absent : ∀ place, memory place = .absent → contents.object place = none
  live : ∀ place, (memory place).IsLive → contents.HoldsUnmarked place

variable {before after : Contents} {memory : Memory} {place : Place}

theorem HoldsUnmarked.holds (h : before.HoldsUnmarked place) : before.Holds place := by
  obtain ⟨live, kept, -⟩ := h
  intro missing
  rw [kept] at missing
  cases missing

theorem holds_congr (same : after.object place = before.object place) :
    after.Holds place ↔ before.Holds place := by
  rw [Holds, Holds, same]

theorem holdsUnmarked_congr (same : after.object place = before.object place) :
    after.HoldsUnmarked place ↔ before.HoldsUnmarked place := by
  rw [HoldsUnmarked, HoldsUnmarked, same]

theorem holdsUnmarked_store (contents : Contents) {object : Managed place.kind} (version : String)
    (unmarked : object.metadata.isDeleting = false) :
    (contents.store place object version).HoldsUnmarked place :=
  ⟨object.atVersion version, store_object_self contents object version, unmarked⟩

theorem holds_store (contents : Contents) (object : Managed place.kind) (version : String) :
    (contents.store place object version).Holds place := by
  rw [Holds, store_object_self]
  rintro ⟨⟩

theorem Release.holdsUnmarked (release : before.Release after) (h : before.HoldsUnmarked place) :
    after.HoldsUnmarked place := by
  obtain ⟨live, kept, unmarked⟩ := h
  cases release with
  | @release other gone present marked =>
    have different : place ≠ other := by
      rintro rfl
      obtain rfl : live = gone := Option.some.inj (kept.symm.trans present)
      rw [unmarked] at marked
      cases marked
    refine ⟨live, ?_, unmarked⟩
    rw [remove_object_of_ne _ different, kept]

theorem Release.absent (release : before.Release after) (h : before.object place = none) :
    after.object place = none := by
  cases release with
  | @release other =>
    by_cases same : place = other
    · subst same
      exact remove_object_self before
    · rw [remove_object_of_ne _ same, h]

theorem confirms_blank (contents : Contents) : contents.Confirms .blank where
  absent _ h := by cases h
  live _ h := by cases h

theorem Confirms.of_release (h : before.Confirms memory) (release : before.Release after) :
    after.Confirms memory where
  absent place unseen := release.absent (h.absent place unseen)
  live place seen := release.holdsUnmarked (h.live place seen)

theorem Accepts.holds {call : Call} {reply : call.Reply} (taken : before.Accepts call reply after)
    (present : after.Holds place) :
    before.Holds place ∨ ∃ kind «namespace» object, call = .create kind «namespace» object := by
  by_cases here : call.place? = some place
  · cases taken with
    | get | alreadyMarked => exact .inl present
    | create => exact .inr ⟨_, _, _, rfl⟩
    | replace kept | remove kept | mark _ kept =>
      left
      obtain rfl := Option.some.inj here
      intro missing
      rw [kept] at missing
      cases missing
  · exact .inl ((holds_congr (taken.object_of_ne here)).1 present)

private theorem Accepts.confirms {call : Call} {reply : call.Reply}
    (taken : before.Accepts call reply after)
    (submits : call.SubmitsUnmarked) (here : call.place? = some place) :
    (memory.learn call (.ok reply) place = .absent → after.object place = none) ∧
      ((memory.learn call (.ok reply) place).IsLive → after.HoldsUnmarked place) := by
  cases taken with
  | get kind key =>
    obtain rfl := Option.some.inj here
    rw [Memory.learn, Memory.note_self]
    cases reading : before.object ⟨kind, key⟩ with
    | none =>
      refine ⟨fun _ => rfl, ?_⟩
      rintro ⟨⟩
    | some live =>
      refine ⟨?_, ?_⟩
      · rintro ⟨⟩
      · rintro ⟨unmarked⟩
        exact ⟨live, reading, unmarked⟩
  | create identity free fresh =>
    obtain rfl := Option.some.inj here
    rw [Memory.learn, Memory.note_self]
    refine ⟨?_, fun _ => holdsUnmarked_store before _ submits⟩
    rintro ⟨⟩
  | replace kept same fresh =>
    obtain rfl := Option.some.inj here
    rw [Memory.learn, Memory.note_self]
    refine ⟨?_, fun _ => holdsUnmarked_store before _ submits⟩
    rintro ⟨⟩
  | remove | mark | alreadyMarked =>
    obtain rfl := Option.some.inj here
    rw [Memory.learn, Memory.note_self]
    refine ⟨?_, ?_⟩ <;> rintro ⟨⟩

end Contents

/-- What a pass knows stays so with each of its calls, even if its answer is lost. -/
theorem Contents.Confirms.of_call {before after : Contents} {memory : Memory} {call : Call}
    {answer : call.Answer} (h : before.Confirms memory) (submits : call.SubmitsUnmarked)
    (served : Unreliable Contents.Accepts before call answer after) :
    after.Confirms (memory.learn call answer) := by
  suffices ∀ place, (memory.learn call answer place = .absent → after.object place = none) ∧
      ((memory.learn call answer place).IsLive → after.HoldsUnmarked place) from
    ⟨fun place => (this place).1, fun place => (this place).2⟩
  intro place
  by_cases here : call.place? = some place
  · cases served with
    | accepted taken => exact taken.confirms submits here
    | failed error | lost error =>
      rw [Memory.learn_error memory here]
      refine ⟨?_, ?_⟩ <;> rintro ⟨⟩
  · have same := served.object_of_ne here
    rw [Memory.learn_of_ne memory here, holdsUnmarked_congr same, same]
    exact ⟨h.absent place, h.live place⟩

end CephExport
