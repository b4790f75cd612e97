import CephExport.Http.Server
import CephExport.Reconcile.Resource
import CephExport.Proofs.Resource.Parent

/-!
What a failed answer of the API server says about the presence of a resource. A reading goes by the
reason of the failure, a deletion by its code, so that a failure can mean absence to one of them and
not to the other.
-/

set_option autoImplicit false
set_option relaxedAutoImplicit false

namespace CephExport

open Call (absenceReason)

namespace HttpResponse

variable {response : HttpResponse}

def error (response : HttpResponse) : OperatorError := .api response.failure

theorem isNotFound_error (response : HttpResponse) :
    response.error.isNotFound = true ↔ response.failure.code = 404 := beq_iff_eq

theorem failure_of_unreadable
    (unread : response.body.written?.bind (decode? : Json → Option ApiFailure) = none) :
    response.failure.code = UInt16.ofNat response.code ∧
      response.failure.reason ≠ absenceReason := by
  rw [HttpResponse.failure, unread]
  have differs : "Failed to parse error data" ≠ absenceReason := by decide
  exact ⟨rfl, differs⟩

end HttpResponse

namespace Call

variable {response : HttpResponse}

theorem successObject_of_failure {α : Type} [Codec α] (failed : response.isFailure = true) :
    (successObject response : Except OperatorError α) = .error response.error := by
  rw [successObject, if_pos failed]
  rfl

theorem readReply_of_failure {α : Type} [Codec α] (failed : response.isFailure = true) :
    (readReply response : Except OperatorError (Option α)) =
      if response.failure.reason = absenceReason then .ok none else .error response.error := by
  rw [readReply, successObject_of_failure failed]
  rfl

theorem deletionReply_of_failure (kind : Kind) (key : ObjectKey)
    (failed : response.isFailure = true) :
    deletionReply kind key response =
      if response.error.isNotFound then .error (.notFound key.name) else .error response.error := by
  rw [deletionReply, if_pos failed]
  rfl

theorem readReply_eq_none_iff {α : Type} [Codec α] (failed : response.isFailure = true) :
    (readReply response : Except OperatorError (Option α)) = .ok none ↔
      response.failure.reason = absenceReason := by
  rw [readReply_of_failure failed]
  split
  case isTrue absent => exact iff_of_true rfl absent
  case isFalse other =>
    refine iff_of_false ?_ other
    intro same
    cases same

theorem deletionReply_eq_notFound_iff (kind : Kind) (key : ObjectKey)
    (failed : response.isFailure = true) :
    deletionReply kind key response = .error (.notFound key.name) ↔
      response.error.isNotFound = true := by
  rw [deletionReply_of_failure kind key failed]
  split
  case isTrue absent => exact iff_of_true rfl absent
  case isFalse other =>
    refine iff_of_false ?_ other
    intro same
    cases same

/-- A server answers every request about a place with one response. -/
def AnswersAt {σ : Type} (now : Timestamp) (serve : HttpRequest → σ → HttpResponse × σ)
    (place : Place) (response : HttpResponse) : Prop :=
  ∀ (call : Call) (request : HttpRequest) (state : σ), call.place? = some place →
    call.request? now = some request → (serve request state).1 = response

end Call

namespace Kind

open Call

variable {σ : Type} {now : Timestamp} {serve : HttpRequest → σ → HttpResponse × σ}
  {response : HttpResponse}

/-- A removal whose requests all fail alike ends with its first reading, and well if the reason of
the failure is the one of absence. -/
theorem deleteAt_of_answersAt (kind : Kind) (key : ObjectKey) (state : σ) {request : HttpRequest}
    (built : (Call.get kind key).request? now = some request) (failed : response.isFailure = true)
    (answers : AnswersAt now serve ⟨kind, key⟩ response) :
    ((kind.deleteAt key).run (Call.exchange now serve) state).result =
      if response.failure.reason = absenceReason then .ok .done else .error response.error := by
  have answered : (serve request state).1 = response := answers _ _ state rfl built
  have reading : (Call.exchange now serve (.get kind key) state).1 =
      if response.failure.reason = absenceReason then .ok none else .error response.error := by
    rw [Call.exchange, built]
    simp only [answered]
    exact readReply_of_failure failed
  change ((Pass.ask (Call.get kind key) _).run (Call.exchange now serve) state).result = _
  simp only [Pass.run, reading]
  split <;> rfl

/-- Absence is told by the reason of a failure to a reading and by its code to a deletion, the
latter as errors are classified. So the two agree on a failure just if it has both or neither, and
where every request about a resource fails in one way, the removal of the resource ends well just if
the reason is the one of absence. -/
theorem absence_by_reason_or_code (kind : Kind) (key : ObjectKey)
    (failed : response.isFailure = true) :
    ((Call.get kind key).reply response = .ok none ↔ response.failure.reason = absenceReason) ∧
    ((Call.delete kind key).reply response = .error (.notFound key.name) ↔
      response.error.isNotFound = true) ∧
    (response.error.isNotFound = true ↔ response.failure.code = 404) ∧
    (((Call.get kind key).reply response = .ok none ↔
        (Call.delete kind key).reply response = .error (.notFound key.name)) ↔
      (response.failure.reason = absenceReason ↔ response.failure.code = 404)) ∧
    ∀ {σ : Type} (now : Timestamp) (serve : HttpRequest → σ → HttpResponse × σ) (state : σ)
      (cluster : Cluster) (request : HttpRequest), kind.keyFor cluster = .ok key →
      (Call.get kind key).request? now = some request → AnswersAt now serve ⟨kind, key⟩ response →
      ((kind.ensureDeleted cluster).run (Call.exchange now serve) state).result =
        if response.failure.reason = absenceReason then .ok .done else .error response.error := by
  have onReading : (Call.get kind key).reply response = .ok none ↔
      response.failure.reason = absenceReason :=
    readReply_eq_none_iff failed
  have onDeletion : (Call.delete kind key).reply response = .error (.notFound key.name) ↔
      response.error.isNotFound = true := deletionReply_eq_notFound_iff kind key failed
  have classified := HttpResponse.isNotFound_error response
  refine ⟨onReading, onDeletion, classified, ?_, ?_⟩
  · rw [onReading, onDeletion, classified]
  · intro σ now serve state cluster request placed built answers
    have started : kind.ensureDeleted cluster = kind.deleteAt key := by
      rw [ensureDeleted, placed]
      rfl
    rw [started]
    exact deleteAt_of_answersAt kind key state built failed answers

def answering (response : HttpResponse) (_ : HttpRequest) (state : Unit) : HttpResponse × Unit :=
  (response, state)

def sampleAddress : ObjectKey := Kind.service.home Cluster.sampleKey

theorem exists_request_sampleAddress (now : Timestamp) :
    ∃ request, (Call.get .service sampleAddress).request? now = some request :=
  Option.isSome_iff_exists.1 rfl

theorem sample_withdraws_where_absence_is_told :
    (ApiServer.absent (.managed .service) sampleAddress.name).isFailure = true ∧
      ((Kind.service.ensureDeleted Cluster.sample).run
        (Call.exchange ApiServer.sessionTime
          (answering (ApiServer.absent (.managed .service) sampleAddress.name)))
        ()).result = .ok .done := by
  have failed : (ApiServer.absent (.managed .service) sampleAddress.name).isFailure = true := rfl
  have told : (ApiServer.absent (.managed .service) sampleAddress.name).failure.reason =
      absenceReason := rfl
  obtain ⟨request, built⟩ := exists_request_sampleAddress ApiServer.sessionTime
  have outcome :=
    (absence_by_reason_or_code .service sampleAddress failed).2.2.2.2 ApiServer.sessionTime
    (answering (ApiServer.absent (.managed .service) sampleAddress.name)) () Cluster.sample request
    (keyFor_of_isAt .service Cluster.sample_isAt) built (fun _ _ _ _ _ => rfl)
  rw [if_pos told] at outcome
  exact ⟨failed, outcome⟩

/-- What a server answers to a request about a kind that it does not know, without a word on why. -/
def pageNotFound : HttpResponse := ⟨404, .text "404 page not found"⟩

/-- Where the API does not know the kind, a deletion of the resource takes it for absent and a
reading does not, so that its removal fails although there is nothing to remove. -/
theorem sample_stuck_at_pageNotFound :
    (Call.get .service sampleAddress).reply pageNotFound ≠ .ok none ∧
    (Call.delete .service sampleAddress).reply pageNotFound =
      .error (.notFound sampleAddress.name) ∧
    pageNotFound.error.isNotFound = true ∧
    ((Kind.service.ensureDeleted Cluster.sample).run
      (Call.exchange ApiServer.sessionTime (answering pageNotFound)) ()).result =
        .error pageNotFound.error := by
  have failed : pageNotFound.isFailure = true := rfl
  have silent : pageNotFound.failure.code = UInt16.ofNat pageNotFound.code ∧
      pageNotFound.failure.reason ≠ absenceReason := HttpResponse.failure_of_unreadable rfl
  have classified : pageNotFound.error.isNotFound = true :=
    (HttpResponse.isNotFound_error _).2 silent.1
  obtain ⟨request, built⟩ := exists_request_sampleAddress ApiServer.sessionTime
  refine ⟨?_, ?_, classified, ?_⟩
  · intro absent
    exact silent.2 ((readReply_eq_none_iff failed).1 absent)
  · exact (deletionReply_eq_notFound_iff .service sampleAddress failed).2 classified
  · have started : Kind.service.ensureDeleted Cluster.sample =
        Kind.service.deleteAt sampleAddress := by
      rw [ensureDeleted, keyFor_of_isAt .service Cluster.sample_isAt]
      rfl
    have outcome : ((Kind.service.deleteAt sampleAddress).run
        (Call.exchange ApiServer.sessionTime (answering pageNotFound)) ()).result =
          if pageNotFound.failure.reason = absenceReason then .ok .done
          else .error pageNotFound.error :=
      deleteAt_of_answersAt .service sampleAddress () built failed (fun _ _ _ _ _ => rfl)
    rw [if_neg silent.2] at outcome
    rw [started]
    exact outcome

end Kind

end CephExport
