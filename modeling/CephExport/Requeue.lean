import CephExport.Settings.Basic

/-!
When a cluster is to be looked at again.
-/

set_option autoImplicit false
set_option relaxedAutoImplicit false

namespace CephExport

/-- What follows a pass: nothing before the next change, or another pass after some time. -/
inductive Action
  | awaitChange
  | requeueAfter (after : Duration)
  deriving DecidableEq

/-- Whether a pass asks for another one, and how soon. -/
structure RequeueHint where
  requeue : Bool
  after : Duration
  deriving DecidableEq

namespace RequeueHint

def done : RequeueHint := ⟨false, ⟨0, 0⟩⟩

instance : Inhabited RequeueHint := ⟨done⟩

def passAfter (after : Duration) : RequeueHint := ⟨true, after⟩

/-- Two hints as one: the sooner of two wanted passes, else the wanted one, else the second hint. -/
def merge (a b : RequeueHint) : RequeueHint :=
  if a.requeue then
    if b.requeue then ⟨true, a.after.min b.after⟩ else a
  else b

/-- The action for a hint; where no pass is wanted the next one follows after `resync`. -/
def toAction (hint : RequeueHint) (resync : Duration) : Action :=
  .requeueAfter (if hint.requeue then hint.after else resync)

end RequeueHint

end CephExport
