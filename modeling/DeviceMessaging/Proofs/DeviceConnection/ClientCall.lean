import DeviceMessaging.DeviceConnection.Client
import DeviceMessaging.Proofs.DeviceConnection.Dispatch

/-!
# `Proofs.DeviceConnection.ClientCall` — a client call is a call of the backend

Between a client and the backend stand the request, any number of logging layers, the dispatcher, the
checks of the API and the response. None of them shows in the outcome: a client gets what it would get by
asking the backend itself, and the backend is asked once, or not at all when an id is empty.

## Contents
- `emptyIds`, `missingFields_of_ids`: which ids the API misses in a request of a client.
- `GatewayResult.failure`, `GatewayResult.document`, `GatewayResult.confirmation`: results as the client reads
  them.
- `Backend.lookUp`, `Backend.store`: asking the backend itself.
- `course_send`, `complete_callSpan`: the course of a client call.
- `client_call_eq_backend_call`: the equivalence.
-/

namespace DeviceMessaging

/-! ## Asking the backend itself -/

/-- The names of the ids that are empty, in their order. -/
def emptyIds (ids : List (String × String)) : List String := (ids.filter fun id => id.2 = "").map Prod.fst

/-- The error for the status of a result: its reason phrase, or the words that it has none. -/
def GatewayResult.failure (result : GatewayResult) : Error :=
  .serviceInvocation result.status ((Status.phrases.lookup result.status).getD "unknown status")

/-- The document that a result with status 200 carries, or the error for the status. -/
def GatewayResult.document (result : GatewayResult) : Except Error Json :=
  match result.payload with
  | some p => if result.status = 200 then .ok p else .error result.failure
  | none => .error result.failure

/-- Nothing for a result with status 204, or the error for the status. -/
def GatewayResult.confirmation (result : GatewayResult) : Except Error Unit :=
  if result.status = 204 then .ok () else .error result.failure

/-- One call with ids of which none may be empty, and what is made of the answer. -/
def checkedCall {α : Type} (ids : List (String × String)) (call : Call)
    (answer : Answer GatewayResult) (read : GatewayResult → Except Error α) :
    List Call × Except Error α :=
  match emptyIds ids with
  | [] => ([call], answer.outcome.bind read)
  | names => ([], .error (.missingRequiredField (", ".intercalate names)))

/-- Looks the gateway of a device up in the backend itself. -/
def Backend.lookUp (backend : Backend) (tenant device : String) : List Call × Except Error Json :=
  checkedCall [("tenant_id", tenant), ("device_id", device)] (.getGateway tenant device)
    (backend.getGateway tenant device) GatewayResult.document

/-- Stores the gateway of a device in the backend itself. -/
def Backend.store (backend : Backend) (tenant device gateway : String) :
    List Call × Except Error Unit :=
  checkedCall [("tenant_id", tenant), ("device_id", device), ("gateway_id", gateway)]
    (.setGateway tenant device gateway) (backend.setGateway tenant device gateway)
    GatewayResult.confirmation

/-! ## The request of a client -/

theorem isNone_presentId (s : String) : (presentId (some s)).isNone = decide (s = "") := by
  by_cases h : s = "" <;> simp [presentId, h]

/-- The API misses exactly the ids that are empty. -/
theorem missingFields_of_ids {action : GatewayAction} {r : Request} {ids : List (String × String)}
    (hids : mandatoryFields action r = ids.map fun id => (id.1, some id.2)) :
    missingFields action r = emptyIds ids := by
  rw [missingFields, hids, List.filter_map, List.map_map, emptyIds]
  exact congrArg (List.map Prod.fst) (List.filter_congr fun id _ => isNone_presentId id.2)

theorem documentOf_toResponse (result : GatewayResult) (r : Request) :
    Client.documentOf (result.toResponse r) = result.document := by
  rw [Client.documentOf, GatewayResult.document, GatewayResult.toResponse]
  cases result.payload <;> rfl

theorem confirmationOf_toResponse (result : GatewayResult) (r : Request) :
    Client.confirmationOf (result.toResponse r) = result.confirmation := rfl

/-- The checks of the API are those of a checked call, and so is its reply as the client reads it. -/
theorem checkedCall_eq {α : Type} (backend : Backend) {action : GatewayAction} {r : Request}
    {ids : List (String × String)} {read : Response → Except Error α}
    {readResult : GatewayResult → Except Error α}
    (hids : mandatoryFields action r = ids.map fun id => (id.1, some id.2))
    (hread : ∀ result, read (GatewayResult.toResponse result r) = readResult result) :
    checkedCall ids (gatewayCall action r) (backend.answer action r) readResult =
      (if missingFields action r = [] then [gatewayCall action r] else [],
        (gatewayReply backend action r).bind read) := by
  rw [checkedCall, gatewayReply, missingFields_of_ids hids, missingError]
  split
  · next hnil =>
      rw [if_pos hnil, if_pos hnil]
      cases (backend.answer action r).outcome with
      | error e => rfl
      | ok result => simp only [Except.map, Except.bind, hread]
  · next hne =>
      rw [if_neg hne, if_neg hne]
      rfl

/-- The request by which a client asks. -/
def Client.lookUpRequest (c : Client Operations) (device : String) (headers : Headers) : Request :=
  { operation := GatewayAction.get.operation, tenant := some c.tenant, device := some device,
    headers := some headers }

/-- The request by which a client tells. -/
def Client.storeRequest (c : Client Operations) (device gateway : String) (headers : Headers) :
    Request :=
  { operation := GatewayAction.set.operation, tenant := some c.tenant, device := some device,
    gateway := some gateway, headers := some headers }

/-! ## The course of a client call -/

section Course

variable (tracing : Tracing) (ambient : List OpenSpan) (component : String) (backend : Backend)
  (layers : List String) (c : Client Operations)

/-- A request that names an action gets the reply of the API, by one call of the backend at most. -/
theorem course_send {action : GatewayAction} {r : Request} (hr : r.operation = action.operation)
    (held : List OpenSpan) (next : Nat) :
    ∃ entries after,
      (c.send (gatewayService component backend layers) r).course tracing ambient held next =
        (entries, ⟨gatewayReply backend action r, held, after⟩) ∧
      Journal.calls entries = if missingFields action r = [] then [gatewayCall action r] else [] := by
  obtain ⟨after, hcourse⟩ := course_call_gatewayService tracing ambient component backend layers
    c.service r held next
  have haction : GatewayAction.ofOperation? r.operation = some action :=
    GatewayAction.ofOperation?_eq_some_iff.mpr hr
  rw [dispatchEntries, dispatchReply, haction] at hcourse
  simp only [Client.send, Job.bind_eq, Job.course_bind, clone_gatewayService,
    oneshot_gatewayService, hcourse]
  -- behind the reply the client only writes an event, and only for a response
  cases gatewayReply backend action r with
  | ok response =>
      refine ⟨_, after, rfl, ?_⟩
      simp [Job.event, Job.bind, Job.pure_eq, calls_gatewayEntries]
  | error e =>
      refine ⟨_, after, rfl, ?_⟩
      simp [Job.pure_eq, calls_gatewayEntries]

/-- A client call comes to what its reading of the API's reply says. -/
theorem complete_callSpan {α : Type} (spec : SpanSpec) {action : GatewayAction}
    {request : Headers → Request} (hrequest : ∀ h, (request h).operation = action.operation)
    (read : Response → Except Error α) (next : Nat) :
    ∃ headers,
      let call := (Job.inSpan spec (.withHeaders fun h => do
        let reply ← c.send (gatewayService component backend layers) (request h)
        return reply.bind read)).complete tracing ambient [] next
      (Journal.calls call.1, call.2) =
        (if missingFields action (request headers) = [] then [gatewayCall action (request headers)]
          else [],
          (gatewayReply backend action (request headers)).bind read) := by
  -- the request is made in the span of the call, and carries its identity
  let span := Job.spanAt tracing ambient [] next spec
  let headers := tracing.propagator.inject (some span.context)
  obtain ⟨entries, after, hsend, hcalls⟩ := course_send tracing ambient component backend layers c
    (hrequest headers) [span] (next + 1)
  have hbody : (Job.withHeaders fun h => do
      let reply ← c.send (gatewayService component backend layers) (request h)
      return reply.bind read).course tracing ambient [span] (next + 1) =
      (entries, ⟨(gatewayReply backend action (request headers)).bind read, [span], after⟩) := by
    have hscope : ([span] ++ ambient).head?.map OpenSpan.context = some span.context := rfl
    rw [Job.course_withHeaders, hscope]
    simp only [Job.bind_eq, Job.course_bind]
    rw [hsend]
    simp [Job.pure_eq]
  refine ⟨headers, ?_⟩
  rw [Job.complete_eq_course, Job.course_inSpan tracing ambient hbody]
  simp [hcalls]

end Course

/-- **A client call is a call of the backend**: through any layers and however long the backend takes, a
client gets what it would get by asking the backend itself, with the same calls of the backend. -/
theorem client_call_eq_backend_call (tracing : Tracing) (ambient : List OpenSpan) (component : String)
    (backend : Backend) (layers : List String) (c : Client Operations) (device gateway : String)
    (next : Nat) :
    let service := gatewayService component backend layers
    let got := (c.getGateway service device).complete tracing ambient [] next
    let told := (c.setGateway service device gateway).complete tracing ambient [] next
    (Journal.calls got.1, got.2) = backend.lookUp c.tenant device ∧
      (Journal.calls told.1, told.2) = backend.store c.tenant device gateway := by
  have hask : ∀ h, (c.lookUpRequest device h).operation = GatewayAction.get.operation := fun _ => rfl
  have htell : ∀ h, (c.storeRequest device gateway h).operation = GatewayAction.set.operation :=
    fun _ => rfl
  constructor
  · obtain ⟨headers, hcall⟩ := complete_callSpan tracing ambient component backend layers c
      (Client.callSpan "get_last_known_gateway_for_device"
        [("tenant_id", c.tenant), ("device_id", device)]) hask Client.documentOf next
    rw [Backend.lookUp]
    exact hcall.trans (checkedCall_eq backend rfl fun result => documentOf_toResponse result _).symm
  · obtain ⟨headers, hcall⟩ := complete_callSpan tracing ambient component backend layers c
      (Client.callSpan "set_last_known_gateway_for_device"
        [("tenant_id", c.tenant), ("device_id", device), ("gateway_id", gateway)]) htell
      Client.confirmationOf next
    rw [Backend.store]
    exact hcall.trans (checkedCall_eq backend rfl fun result => confirmationOf_toResponse result _).symm

/-- A result that has no document is a failure whatever its status, and not every status has a phrase. -/
example :
    (GatewayResult.ofStatus 200).document = .error (.serviceInvocation 200 "OK") ∧
    (GatewayResult.ofStatus 499).confirmation = .error (.serviceInvocation 499 "unknown status") :=
  ⟨rfl, rfl⟩

end DeviceMessaging
