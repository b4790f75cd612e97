import CephExport.Http.Server
import CephExport.Reconcile.Cluster
import CephExport.Proofs.Http.Exchange
import CephExport.Proofs.Pass.Provision
import CephExport.Proofs.Resource.Frame

/-!
What an update makes of the document that the server keeps. What the operator owns becomes as it is
wanted, the rest stays as far as the types of the operator know it, and what they do not know does
not come through.
-/

set_option autoImplicit false
set_option relaxedAutoImplicit false

namespace CephExport

open Json (given? seek)

namespace Kind

section

variable {kind : Kind} {key : ObjectKey} {desired : Managed kind} {σ : Type}
  {answer : (call : Call) → σ → call.Answer × σ} {state : σ}

theorem not_replaced_of_deletion {cluster : Cluster} {exchanges : List Exchange}
    {events : List Event} {result : Except OperatorError RequeueHint}
    (deletion : Deletion kind cluster exchanges events result) {object : Managed kind}
    {reply : (Call.replace kind key object).Answer} :
    (⟨.replace kind key object, reply⟩ : Exchange) ∉ exchanges := by
  cases deletion with
  | unplaced => exact List.not_mem_nil
  | placed _ removal =>
    cases removal with
    | unread | absent | refused => simp
    | marked _ confirmed | deleted _ confirmed | vanished _ _ _ confirmed =>
      cases confirmed <;> simp

/-- What a pass replaces is what it has read, brought in line with what is wanted. -/
theorem exists_read_of_replaced {policy : Policy} {cluster : Cluster} {object : Managed kind}
    {reply : (Call.replace kind key object).Answer}
    (replaced : (⟨.replace kind key object, reply⟩ : Exchange) ∈
      (kind.ensureCreated policy cluster).history answer state) :
    ∃ desired live, kind.desired cluster policy.scheme policy.settings = .ok desired ∧
      (answer (.get kind key) state).1 = .ok (some live) ∧ object = live.merge desired := by
  cases wanted : kind.shouldExist cluster with
  | false =>
    rw [ensureCreated_of_unwanted wanted] at replaced
    exact absurd replaced
      (not_replaced_of_deletion (deletion_of_ends (Pass.ends_run answer _ state)))
  | true =>
    rcases ensureCreated_cases kind policy wanted with ⟨error, -, failing⟩
      | ⟨parent, desired, -, built, creating⟩
    · rw [failing] at replaced
      cases replaced
    · rw [creating] at replaced
      obtain ⟨rfl, live, found, merged⟩ := exists_found_of_replaced replaced
      exact ⟨desired, live, built, found, merged⟩

end

/-- The body of an update is at every path what the frame of the wanted object makes of the document
that the pass has read. The places that the operator owns, and no others, become what the wanted
object has there. The ports of a Service are among them as a whole, so that of a live port all is
lost that is not compared, such as the port of the nodes that a server has given it. -/
theorem update_keeps_document (kind : Kind) (policy : Policy) (cluster : Cluster) {σ : Type}
    (now : Timestamp) (serve : HttpRequest → σ → HttpResponse × σ) (state : σ) {key : ObjectKey}
    {object : Managed kind} {reply : (Call.replace kind key object).Answer} {request : HttpRequest}
    (replaced : (⟨.replace kind key object, reply⟩ : Exchange) ∈
      (kind.ensureCreated policy cluster).history (Call.exchange now serve) state)
    (built : (Call.replace kind key object).request? now = some request) :
    ∃ desired asked document sent,
      kind.desired cluster policy.scheme policy.settings = .ok desired ∧
      (Call.get kind key).request? now = some asked ∧
      (serve asked state).1.isFailure = false ∧
      (serve asked state).1.body.written? = some document ∧
      request.body = some (Json.object sent).transferred ∧
      ∀ members, document = .object members →
        (desired.frame members).Agrees (some document) (some (.object sent)) ∧
        (∀ path value, (desired.frame members).at? path = some (.becomes value) ↔
          (∃ owned ∈ kind.ownedPaths members, owned <+: path) ∧
            value = seek path (some (encode desired))) ∧
        ∀ position token, token ∉ ServicePort.comparedKeys →
          seek ["spec", "ports", position, token] (some (.object sent)) = none := by
  obtain ⟨desired, live, wanted, found, rfl⟩ := exists_read_of_replaced replaced
  obtain ⟨asked, get, answered⟩ := Call.exists_request_of_ok found
  obtain ⟨shown, read⟩ := Call.readReply_eq_some_iff.1 answered
  obtain ⟨document, written, decoded⟩ := Option.bind_eq_some_iff.1 read
  refine ⟨desired, asked, document, _, wanted, get, shown, written, Call.body_of_replace built, ?_⟩
  rintro members rfl
  have agrees := Managed.agrees_merge decoded wanted
  exact ⟨agrees, fun _ _ => Managed.at?_eq_becomes_iff wanted,
    Managed.port_of_agrees wanted agrees⟩

/-! ### An update of a Service that a server and another party have completed -/

namespace EditedService

def address : ObjectKey := Kind.service.home Cluster.sampleKey

def policy : Policy := ⟨V1alpha1.Cluster.scheme, {}⟩

/-- A Service with a finalizer of another party, and with an address and a port of the nodes that a
server has given it. -/
def members : Members :=
  [("metadata",
    .object [("finalizers", .array [.string "backup/hold"]), ("name", .string "edited")]),
    ("spec", .object [("clusterIP", .string "10.96.14.2"),
      ("ports", .array [.object [("name", .string "nfs"), ("nodePort", .ofNat 30049),
        ("port", .ofNat 2049)]])])]

def live : Managed .service where
  metadata := { finalizers := some ["backup/hold"], name := some "edited" }
  body :=
    { spec := some
        { clusterIP := some "10.96.14.2"
          ports := some [{ name := some "nfs", nodePort := some 30049, port := 2049 }] } }

theorem decode?_members : decode? (Json.object members) = some live := rfl

def serve (_ : HttpRequest) (state : Unit) : HttpResponse × Unit :=
  (ApiServer.answered (.object members), state)

theorem exists_desired : ∃ desired : Managed .service,
    Kind.service.desired Cluster.sample policy.scheme policy.settings = .ok desired ∧
      desired.metadata.owners ≠ [] := by
  obtain ⟨owner, owned⟩ : ∃ owner,
      policy.scheme.controllerRef Cluster.sample.metadata = .ok owner :=
    policy.scheme.exists_controllerRef rfl rfl
  exact ⟨_, desired_of_isAt Cluster.sample_isAt owned, List.cons_ne_nil _ _⟩

theorem exists_replaced :
    ∃ (desired : Managed .service)
      (reply : (Call.replace .service address (live.merge desired)).Answer) (request : HttpRequest),
      Kind.service.desired Cluster.sample policy.scheme policy.settings = .ok desired ∧
      (⟨.replace .service address (live.merge desired), reply⟩ : Exchange) ∈
        (Kind.service.ensureCreated policy Cluster.sample).history
          (Call.exchange ApiServer.sessionTime serve) () ∧
      (Call.replace .service address (live.merge desired)).request? ApiServer.sessionTime =
        some request := by
  obtain ⟨desired, built, owned⟩ := exists_desired
  obtain ⟨asked, get⟩ : ∃ asked,
      (Call.get .service address).request? ApiServer.sessionTime = some asked :=
    Option.isSome_iff_exists.1 rfl
  have found : (Call.exchange ApiServer.sessionTime serve (.get .service address) ()).1 =
      .ok (some live) := by
    rw [Call.exchange_of_built get]
    change Call.readReply (ApiServer.answered (.object members)) = .ok (some live)
    exact Call.readReply_eq_some_iff.2 ⟨rfl, decode?_members⟩
  have drifted : live.drifted desired = true := by
    rw [← Bool.not_eq_false]
    intro same
    exact owned (Managed.owners_eq_of_not_drifted same).symm
  obtain ⟨request, put⟩ :
      ∃ request, (Call.replace .service address (live.merge desired)).request?
        ApiServer.sessionTime = some request := Option.isSome_iff_exists.1 rfl
  obtain ⟨reply, replaced⟩ := createAt_of_drifted found rfl drifted
  refine ⟨desired, reply, request, built, ?_, put⟩
  rw [ensureCreated_of_built rfl Cluster.sample_isAt built]
  exact replaced

/-- The port of the nodes is not compared and yet lost. -/
theorem sample_loses_nodePort :
    ∃ (object : Managed .service) (reply : (Call.replace .service address object).Answer)
      (request : HttpRequest) (sent : Json),
      (⟨.replace .service address object, reply⟩ : Exchange) ∈
        (Kind.service.ensureCreated policy Cluster.sample).history
          (Call.exchange ApiServer.sessionTime serve) () ∧
      (Call.replace .service address object).request? ApiServer.sessionTime = some request ∧
      request.body = some sent ∧
      seek ["spec", "ports", "0", "nodePort"] (some (.object members)) = some (.ofNat 30049) ∧
      seek ["spec", "ports", "0", "nodePort"] (some sent) = none := by
  obtain ⟨desired, reply, request, built, replaced, put⟩ := exists_replaced
  refine ⟨_, reply, request, _, replaced, put, Call.body_of_replace put, rfl, ?_⟩
  have unsent := Managed.port_of_agrees built (Managed.agrees_merge decode?_members built) "0"
    "nodePort" (by decide)
  exact (Json.seek_transferred _ (some (encode (live.merge desired)))).trans
    (congrArg (Option.map Json.transferred) unsent)

/-- The finalizer and the address are kept. -/
theorem sample_keeps_address :
    ∃ (object : Managed .service) (reply : (Call.replace .service address object).Answer)
      (request : HttpRequest) (sent : Members),
      (⟨.replace .service address object, reply⟩ : Exchange) ∈
        (Kind.service.ensureCreated policy Cluster.sample).history
          (Call.exchange ApiServer.sessionTime serve) () ∧
      (Call.replace .service address object).request? ApiServer.sessionTime = some request ∧
      request.body = some (Json.object sent).transferred ∧
      seek ["metadata", "finalizers", "0"] (some (.object sent)) = some (.string "backup/hold") ∧
      seek ["spec", "clusterIP"] (some (.object sent)) = some (.string "10.96.14.2") := by
  obtain ⟨desired, reply, request, -, replaced, put⟩ := exists_replaced
  obtain ⟨wanted, asked, document, sent, -, -, -, shown, body, keeps⟩ :=
    update_keeps_document .service policy Cluster.sample ApiServer.sessionTime serve () replaced put
  obtain rfl : Json.object members = document := Option.some.inj shown
  obtain ⟨agrees, -⟩ := keeps members rfl
  exact ⟨_, reply, request, sent, replaced, put, body, agrees ["metadata", "finalizers", "0"],
    agrees ["spec", "clusterIP"]⟩

end EditedService

end Kind

end CephExport
