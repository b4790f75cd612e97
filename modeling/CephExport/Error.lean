import CephExport.Requeue
import CephExport.Text.Quoted

/-!
What can go wrong in a pass: the causes, their texts, and what each means for the next pass.
-/

set_option autoImplicit false
set_option relaxedAutoImplicit false

namespace CephExport

structure ApiFailure where
  status : String
  message : String
  reason : String
  code : UInt16
  deriving DecidableEq

def ApiFailure.text (f : ApiFailure) : String :=
  "ApiError: " ++ f.message ++ ": " ++ f.reason ++ " (ErrorResponse \x7b status: " ++
    Text.quoted f.status ++ ", message: " ++ Text.quoted f.message ++ ", reason: " ++
    Text.quoted f.reason ++ ", code: " ++ toString f.code.toNat ++ " \x7d)"

/-- A failure of the exchange with the API server that is none of its answers. -/
inductive ExchangeFailure
  | buildRequest
  | unreadableAnswer
  | lineTooLong
  deriving DecidableEq

/-- What can go wrong in a pass. -/
inductive OperatorError
  | api (failure : ApiFailure)
  | exchange (failure : ExchangeFailure)
  | store (message : String)
  | notFound (name : String)
  | missingKey (message : String)
  | pendingDeletion (kind name : String)
  | stillDeleting (kind name : String)
  | missingState
  | finalizer (message : String)
  | unknown (message : String)
  deriving DecidableEq

namespace OperatorError

/-- The text of an error; a failed exchange has none of the operator's own. -/
def message? : OperatorError → Option String
  | api failure => some ("kubernetes api error: " ++ failure.text)
  | exchange _ => none
  | store message => some ("object store error: " ++ message)
  | notFound name => some ("object not found: " ++ name)
  | missingKey message => some ("missing object key: " ++ message)
  | pendingDeletion kind name =>
    some ("failed to restore " ++ kind ++ " " ++ name ++ " because it is marked for deletion")
  | stillDeleting kind name => some ("waiting for " ++ kind ++ " " ++ name ++ " to be deleted")
  | missingState => some "controller state is not configured"
  | finalizer message => some ("finalizer error: " ++ message)
  | unknown message => some ("unknown error: " ++ message)

/-- Whether the error only says that a deletion goes on. -/
def isStillDeleting : OperatorError → Bool
  | stillDeleting _ _ => true
  | _ => false

def isNotFound : OperatorError → Bool
  | notFound _ => true
  | api failure => failure.code == 404
  | _ => false

/-- Whether a later pass may succeed without any change. -/
def isRetryable : OperatorError → Bool
  | missingState => false
  | _ => true

/-- When to try again after an error. -/
def requeueHint (settings : ControllerSettings) : OperatorError → RequeueHint
  | stillDeleting _ _ => .passAfter settings.deletionPoll
  | pendingDeletion _ _ => .passAfter settings.pendingDeletionRequeue
  | _ => .passAfter settings.errorRequeue

end OperatorError

end CephExport
