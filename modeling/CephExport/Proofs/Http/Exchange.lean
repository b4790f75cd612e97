import CephExport.Http.Client
import CephExport.Proofs.Pass.Course

/-!
Calls as exchanges with a server: a call that is answered well made its request, and the answer was
read from the body of a response that is no failure.
-/

set_option autoImplicit false
set_option relaxedAutoImplicit false

namespace CephExport

namespace Call

variable {σ : Type} {now : Timestamp} {serve : HttpRequest → σ → HttpResponse × σ} {state : σ}
  {response : HttpResponse}

theorem exchange_of_built {call : Call} {request : HttpRequest}
    (built : call.request? now = some request) :
    call.exchange now serve state =
      (call.reply (serve request state).1, (serve request state).2) := by
  rw [exchange, built]

theorem exists_request_of_ok {call : Call} {reply : call.Reply}
    (answered : (call.exchange now serve state).1 = .ok reply) :
    ∃ request, call.request? now = some request ∧
      call.reply (serve request state).1 = .ok reply := by
  cases built : call.request? now with
  | none =>
    rw [exchange, built] at answered
    cases answered
  | some request =>
    rw [exchange_of_built built] at answered
    exact ⟨request, rfl, answered⟩

section

variable {α : Type} [Codec α] {object : α}

theorem successObject_eq_ok_iff :
    successObject response = .ok object ↔
      response.isFailure = false ∧ response.body.written?.bind decode? = some object := by
  rw [successObject]
  by_cases failed : response.isFailure = true
  · simp [failed]
  · rw [if_neg failed]
    cases read : response.body.written?.bind (decode? : Json → Option α) with
    | none => simp
    | some other => simp [failed]

theorem readReply_eq_some_iff :
    readReply response = .ok (some object) ↔
      response.isFailure = false ∧ response.body.written?.bind decode? = some object := by
  rw [← successObject_eq_ok_iff, readReply]
  cases (successObject response : Except OperatorError α) with
  | ok other => simp
  | error error =>
    cases error with
    | api failure => by_cases absent : failure.reason = absenceReason <;> simp [absent]
    | _ => simp

end

theorem body_of_create {kind : Kind} {«namespace» : String} {object : Managed kind}
    {request : HttpRequest}
    (built : (Call.create kind «namespace» object).request? now = some request) :
    request.body = some (encode object : Json).transferred := by
  simp only [request?, Option.bind_eq_bind, Option.bind_eq_some_iff, Option.some.injEq] at built
  obtain ⟨target, -, rfl⟩ := built
  rfl

theorem body_of_replace {kind : Kind} {key : ObjectKey} {object : Managed kind}
    {request : HttpRequest} (built : (Call.replace kind key object).request? now = some request) :
    request.body = some (encode object : Json).transferred := by
  simp only [request?, Option.bind_eq_bind, Option.bind_eq_some_iff, Option.some.injEq] at built
  obtain ⟨target, -, rfl⟩ := built
  rfl

end Call

end CephExport
