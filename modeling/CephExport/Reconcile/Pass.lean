import CephExport.Event
import CephExport.Resource.Basic

/-!
A pass of the operator as a program: it makes calls on the object store one at a time, each next
step depending on the answer, reports events, and ends with a result or an error. What a pass does
against a store, a server or any other environment is given by how the calls are answered.
-/

set_option autoImplicit false
set_option relaxedAutoImplicit false

namespace CephExport

/-- The place of an object of a kind. -/
structure ObjectKey where
  «namespace» : String
  name : String
  deriving DecidableEq

/-- The finalizer that keeps a cluster until all that belongs to it is gone. -/
def clusterFinalizer : String := "storageclusters.finalizers.nfs-operator.io"

inductive Call
  | get (kind : Kind) (key : ObjectKey)
  | create (kind : Kind) («namespace» : String) (object : Managed kind)
  /-- Replace an object at the version that the new one carries. -/
  | replace (kind : Kind) (key : ObjectKey) (object : Managed kind)
  | delete (kind : Kind) (key : ObjectKey)
  | setPhase (key : ObjectKey) (phase : Phase)
  /-- Add the finalizer to a cluster, provided that it has just these. -/
  | addFinalizer (key : ObjectKey) (present : List String)
  /-- Remove the finalizer of a cluster, provided that it is at this position. -/
  | removeFinalizer (key : ObjectKey) (position : Nat)

/-- What a call answers when it succeeds: reading an object that is not there finds none. -/
@[reducible] def Call.Reply : Call → Type
  | .get kind _ => Option (Managed kind)
  | .create kind _ _ => Managed kind
  | .replace kind _ _ => Managed kind
  | .delete _ _ => Unit
  | .setPhase _ _ => Unit
  | .addFinalizer _ _ => Unit
  | .removeFinalizer _ _ => Unit

abbrev Call.Answer (call : Call) : Type := Except OperatorError call.Reply

/-- A pass of the operator. -/
inductive Pass (α : Type) : Type
  | done (result : Except OperatorError α)
  | report (event : Event) (rest : Pass α)
  /-- A call and how the pass goes on with each answer. -/
  | ask (call : Call) (rest : call.Answer → Pass α)

namespace Pass

variable {α β : Type}

def bind : Pass α → (α → Pass β) → Pass β
  | done (.ok a), next => next a
  | done (.error e), _ => done (.error e)
  | report event rest, next => report event (rest.bind next)
  | ask call rest, next => ask call fun answer => (rest answer).bind next

instance : Monad Pass where
  pure a := done (.ok a)
  bind := bind

def fail (error : OperatorError) : Pass α := done (.error error)

/-- Go on with a value, or end the pass with an error. -/
def ofExcept (result : Except OperatorError α) : Pass α := done result

def log (event : Event) : Pass Unit := report event (done (.ok ()))

def logAll : List Event → Pass Unit
  | [] => done (.ok ())
  | event :: rest => report event (logAll rest)

/-- Make a call and go on with its answer, whatever it is. -/
def attempt (call : Call) : Pass call.Answer := ask call fun answer => done (.ok answer)

/-- Make a call and go on with what it answers; a failure ends the pass. -/
def perform (call : Call) : Pass call.Reply := ask call done

/-- What a pass comes to: its result, the events in order, and the state that the calls leave. -/
structure Outcome (σ : Type) (α : Type) where
  result : Except OperatorError α
  events : List Event
  state : σ

def run {σ : Type} (answer : (call : Call) → σ → call.Answer × σ) : Pass α → σ → Outcome σ α
  | done result, state => ⟨result, [], state⟩
  | report event rest, state =>
    let outcome := rest.run answer state
    { outcome with events := event :: outcome.events }
  | ask call rest, state =>
    let (reply, state) := answer call state
    (rest reply).run answer state

end Pass

end CephExport
