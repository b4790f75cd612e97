import CephExport.Proofs.Pass.Worker

/-!
Passes that run side by side over the same objects, taking turns call by call in any order.
-/

set_option autoImplicit false
set_option relaxedAutoImplicit false

namespace CephExport

/-- Passes over resources that run at the same time. -/
structure Fleet where
  contents : Contents
  workers : List (Worker RequeueHint)

inductive Fleet.Turn (backend : Backend Contents) : Fleet → Option Exchange → Fleet → Prop
  | turn {before after : Contents} {ahead behind : List (Worker RequeueHint)}
      {worker next : Worker RequeueHint}
      {exchange : Option Exchange} (step : worker.Step backend before exchange next after) :
      Turn backend ⟨before, ahead ++ worker :: behind⟩ exchange ⟨after, ahead ++ next :: behind⟩

/-- Turns one after another, with the exchanges that were made, the last one last. -/
inductive Fleet.Run (backend : Backend Contents) (first : Fleet) : List Exchange → Fleet → Prop
  | refl : Run backend first [] first
  | turn {log : List Exchange} {fleet last : Fleet} {exchange : Option Exchange}
      (run : Run backend first log fleet)
      (turn : fleet.Turn backend exchange last) : Run backend first (log ++ exchange.toList) last

theorem Fleet.Turn.inversion {backend : Backend Contents} {before after : Fleet}
    {exchange : Option Exchange}
    (turn : before.Turn backend exchange after) : ∃ worker ∈ before.workers, ∃ next ∈ after.workers,
      worker.Step backend before.contents exchange next after.contents ∧
      (∀ other ∈ after.workers, other = next ∨ other ∈ before.workers) ∧
      (∀ other ∈ before.workers, other = worker ∨ other ∈ after.workers) := by
  obtain ⟨step⟩ := turn
  have exchanged : ∀ {ahead behind : List (Worker RequeueHint)}
      {mine yours : Worker RequeueHint} (other), other ∈ ahead ++ mine :: behind →
      other = mine ∨ other ∈ ahead ++ yours :: behind := by
    intro ahead behind mine yours other member
    simp only [List.mem_append, List.mem_cons] at member ⊢
    rcases member with early | same | late
    · exact .inr (.inl early)
    · exact .inl same
    · exact .inr (.inr (.inr late))
  have present : ∀ {ahead behind : List (Worker RequeueHint)} {mine : Worker RequeueHint},
      mine ∈ ahead ++ mine :: behind := List.mem_append_right _ List.mem_cons_self
  exact ⟨_, present, _, present, step, exchanged, exchanged⟩

namespace Fleet.Turn

variable {backend : Backend Contents} {before after : Contents}
  {workers workers' : List (Worker RequeueHint)} {exchange : Option Exchange}

theorem head {worker next : Worker RequeueHint}
    (step : worker.Step backend before exchange next after) :
    Turn backend ⟨before, worker :: workers⟩ exchange ⟨after, next :: workers⟩ :=
  @turn backend before after [] workers worker next exchange step

theorem tail (worker : Worker RequeueHint)
    (turn : Turn backend ⟨before, workers⟩ exchange ⟨after, workers'⟩) :
    Turn backend ⟨before, worker :: workers⟩ exchange ⟨after, worker :: workers'⟩ := by
  generalize earlier : (⟨before, workers⟩ : Fleet) = fleet at turn
  generalize later : (⟨after, workers'⟩ : Fleet) = fleet' at turn
  obtain ⟨step⟩ := turn
  rename_i ahead behind taking taken
  obtain ⟨rfl, rfl⟩ := Fleet.mk.inj earlier
  obtain ⟨rfl, rfl⟩ := Fleet.mk.inj later
  exact @Turn.turn backend before after (worker :: ahead) behind taking taken exchange step

end Fleet.Turn

end CephExport
