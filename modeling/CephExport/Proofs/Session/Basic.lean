import CephExport.Proofs.Pass.Worker
import Mathlib.Logic.Relation

/-!
Passes that run one after another over the same state. A pass may be left at any call, as when the
operator is stopped, and the state may change by itself at any time.
-/

set_option autoImplicit false
set_option relaxedAutoImplicit false

namespace CephExport

/-- A state and the pass that runs over it, if there is one. -/
structure Session (σ α : Type) where
  state : σ
  running : Option (Worker α)

namespace Session

variable {σ α : Type}

/-- What happens in a session. Which passes may begin depends on the state. -/
inductive Step (backend : Backend σ) (environment : σ → σ → Prop) (begins : σ → Pass α → Prop) :
    Session σ α → Session σ α → Prop
  /-- A pass begins. -/
  | start {state : σ} {pass : Pass α} (begun : begins state pass) :
      Step backend environment begins ⟨state, none⟩ ⟨state, some ⟨pass, .blank⟩⟩
  /-- The pass goes one step ahead. -/
  | work {before after : σ} {worker next : Worker α} {exchange : Option Exchange}
      (step : worker.Step backend before exchange next after) :
      Step backend environment begins ⟨before, some worker⟩ ⟨after, some next⟩
  /-- The pass has ended or is cut off. -/
  | leave {state : σ} {worker : Worker α} :
      Step backend environment begins ⟨state, some worker⟩ ⟨state, none⟩
  /-- The state changes by itself. -/
  | drift {before after : σ} {running : Option (Worker α)} (changed : environment before after) :
      Step backend environment begins ⟨before, running⟩ ⟨after, running⟩

variable {backend : Backend σ} {environment : σ → σ → Prop} {begins : σ → Pass α → Prop}

theorem invariant_of_run {invariant : Session σ α → Prop}
    (kept : ∀ before after, invariant before → Step backend environment begins before after →
      invariant after)
    {first last : Session σ α}
    (run : Relation.ReflTransGen (Step backend environment begins) first last)
    (holds : invariant first) : invariant last := by
  induction run with
  | refl => exact holds
  | tail _ step ih => exact kept _ _ ih step

end Session

end CephExport
