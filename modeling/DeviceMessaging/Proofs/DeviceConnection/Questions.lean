import DeviceMessaging.DeviceConnection.Client
import DeviceMessaging.Proofs.DeviceConnection.SpanLife
import DeviceMessaging.Proofs.Job.Acts

/-!
# `Proofs.DeviceConnection.Questions` — what a client can be asked, and what it does about it

A client looks up or stores the gateway of a device. Both calls open a span, make a request in it and read
the reply; they differ in the request and in the reading. Nothing but the service acts between the opening
of the span and the end of the call.

## Contents
- `Question`, with `Question.request`, `Question.span` and `Question.backendCall`.
- `Client.ask`, with `ask_eq`: the call for a question.
- `can_ask`: what a call can do is what the service can do about its request.
- `exists_call_gatewayService`, `can_call_gatewayService`: what the dispatcher does about a request.
-/

namespace DeviceMessaging

/-! ## Questions -/

/-- What a client is asked for. -/
inductive Question where
  /-- Which gateway did the device last communicate through? -/
  | lookUp (device : String)
  /-- The device has just communicated through the gateway. -/
  | store (device gateway : String)

namespace Question

/-- The action of the API that a question is about. -/
def action : Question → GatewayAction
  | lookUp _ => .get
  | store _ _ => .set

/-- The device that a question is about. -/
def device : Question → String
  | lookUp d => d
  | store d _ => d

/-- The gateway that a question names. -/
def gateway? : Question → Option String
  | lookUp _ => none
  | store _ g => some g

/-- The request of a tenant's client, with the headers that name the span of the call. -/
def request (q : Question) (tenant : String) (headers : Headers) : Request :=
  { operation := q.action.operation, tenant := some tenant, device := some q.device, gateway := q.gateway?,
    headers := some headers }

/-- The span of a call. -/
def span (tenant : String) : Question → SpanSpec
  | lookUp d =>
    Client.callSpan "get_last_known_gateway_for_device" [("tenant_id", tenant), ("device_id", d)]
  | store d g =>
    Client.callSpan "set_last_known_gateway_for_device"
      [("tenant_id", tenant), ("device_id", d), ("gateway_id", g)]

/-- The call of the backend that the question of a tenant comes to. -/
def backendCall (tenant : String) : Question → Call
  | lookUp d => .getGateway tenant d
  | store d g => .setGateway tenant d g

/-- The answer that a client reads in a reply: a document when it looked up, and nothing when it stored. -/
def read : Question → Reply → Except Error (Option Json)
  | lookUp _, reply => (reply.bind Client.documentOf).map some
  | store _ _, reply => (reply.bind Client.confirmationOf).map fun _ => none

theorem ofOperation?_request (q : Question) (tenant : String) (headers : Headers) :
    GatewayAction.ofOperation? (q.request tenant headers).operation = some q.action :=
  GatewayAction.ofOperation?_eq_some_iff.mpr rfl

theorem gatewayCall_request (q : Question) (tenant : String) (headers : Headers) :
    gatewayCall q.action (q.request tenant headers) = q.backendCall tenant := by
  cases q <;> rfl

end Question

/-! ## Calls -/

/-- What a client reads in the reply to a question. -/
abbrev Reading := Except Error (Option Json)

variable {ι : Type}

namespace Client

/-- The call for a question. -/
def ask (S : Service ι) (c : Client ι) : Question → Job Reading
  | .lookUp d => (c.getGateway S d).bind fun a => .done (a.map some)
  | .store d g => (c.setGateway S d g).bind fun a => .done (a.map fun _ => none)

/-- What a client does with the reply to a request, in the span of the call. -/
def conclude (q : Question) (reply : Reply) : Job Reading :=
  match reply with
  | .ok response =>
    .emit (responseEvent q.action.operation response.status) (.closeSpan (.done (q.read reply)))
  | .error _ => .closeSpan (.done (q.read reply))

theorem not_can_conclude {a : Act} {q : Question} {reply : Reply} : ¬(conclude q reply).Can a := by
  cases reply <;> exact id

/-- **The call for a question**: a span opens, the request is made in it and carries its identity, and the
reply is read behind what the service does. -/
theorem ask_eq (S : Service ι) (c : Client ι) (q : Question) :
    c.ask S q = .openSpan (q.span c.tenant) (.withHeaders fun headers =>
      (S.oneshot (S.clone c.service) (q.request c.tenant headers)).bind (conclude q)) := by
  -- the pieces of the call stand one behind the other
  have hpieces : ∀ {α : Type} (t : Job Reply) (request : Request)
      (read : Reply → α) (k : α → Reading),
      q.action.operation = request.operation → (∀ reply, k (read reply) = q.read reply) →
      (((((t.bind fun reply => match reply with
        | .ok response => (Job.event (responseEvent request.operation response.status)).bind fun _ =>
            .done (.ok response)
        | .error e => .done (.error e)).bind fun reply => .done (read reply)).bind fun a =>
          .closeSpan (.done a)).bind fun a => .done (k a)) = t.bind (conclude q)) := by
    intro α t request read k hoperation hread
    simp only [Job.bind_assoc]
    refine congrArg t.bind (funext fun reply => ?_)
    cases reply with
    | ok response => simp [Job.event, Job.bind, conclude, hoperation, hread]
    | error e => simp [Job.bind, conclude, hread]
  cases q with
  | lookUp d =>
      exact congrArg (Job.openSpan _) (congrArg Job.withHeaders (funext fun headers =>
        hpieces _ _ _ _ rfl fun reply => rfl))
  | store d g =>
      exact congrArg (Job.openSpan _) (congrArg Job.withHeaders (funext fun headers =>
        hpieces _ _ _ _ rfl fun reply => rfl))

/-- **What a call can do**: it opens its span, and besides only the service acts, on the request of the
call. -/
theorem can_ask {S : Service ι} {c : Client ι} {q : Question} {a : Act} (h : (c.ask S q).Can a) :
    a = .span (q.span c.tenant) ∨
      ∃ headers, (S.oneshot (S.clone c.service) (q.request c.tenant headers)).Can a := by
  rw [ask_eq] at h
  rcases h with h | ⟨headers, h⟩
  · exact .inl h
  · rcases Job.Can.of_bind h with h | ⟨reply, h⟩
    · exact .inr ⟨headers, h⟩
    · exact absurd h not_can_conclude

end Client

/-! ## Services -/

namespace Service

variable {S : Service ι} {r : Request} {a : Act}

/-- Driving an instance to readiness does nothing; all that is done the call does. -/
theorem can_oneshot {i : ι} (h : (S.oneshot i r).Can a) : ∃ j, (S.call j r).1.lazily.Can a := by
  -- the attempts that stay pending are bounded by the patience of the instance
  induction hpatience : S.patience i using Nat.strongRecOn generalizing i with
  | ind patience ih =>
      rw [oneshot] at h
      split at h
      · next j hready => exact ⟨j, h⟩
      · next e j hfailed => exact False.elim h
      · next j hpending =>
          have hless : S.patience j < patience := hpatience ▸ S.patience_lt i j hpending
          exact ih _ hless h rfl

/-- Watching an instance leaves it ready. -/
theorem pollReady_watched_of_ready {i j : ι} (h : S.pollReady i = (.ready, j)) (wasReady : Bool) :
    S.watched.pollReady (i, wasReady) = (.ready, j, true) := by
  show ((S.pollReady i).1, (S.pollReady i).2, wasReady || (S.pollReady i).1 == .ready) = _
  rw [h]
  cases wasReady <;> rfl

/-- A watched call is reported, and otherwise does what the call does. -/
theorem can_call_watched {i : ι × Bool} (h : (S.watched.call i r).1.lazily.Can a) :
    (∃ ready, a = .call (.service ready r)) ∨ (S.call i.1 r).1.lazily.Can a := by
  rcases h with h | h
  · exact .inl ⟨i.2, h⟩
  · exact .inr h

end Service

/-! ## The dispatcher -/

section Dispatcher

variable (component : String) (backend : Backend) {action : GatewayAction} {r : Request} {a : Act}

theorem not_can_settle {reply : Reply} : ¬(settle reply).Can a := by
  cases reply <;> exact id

/-- In its span a request does nothing but call the backend. -/
theorem can_consultBackend {backend : Backend} (h : ((consultBackend backend action r).bind settle).Can a) :
    a = .call (gatewayCall action r) := by
  rcases Job.Can.of_bind h with h | ⟨reply, h⟩
  · by_cases hmissing : missingFields action r = []
    · rw [consultBackend_of_complete backend hmissing] at h
      rcases h with h | h
      · exact h
      · rcases Job.Can.of_bind h with h | ⟨outcome, h⟩
        · exact absurd h (Job.not_can_await _)
        · exact False.elim h
    · rw [consultBackend_of_missing backend hmissing] at h
      exact False.elim h
  · exact absurd h not_can_settle

/-- **What the dispatcher does about a request of the API**, behind any layers: it opens the span of the
request, and then can only call the backend for it. -/
theorem exists_call_gatewayService (layers : List String) (custom : Operations)
    (h : GatewayAction.ofOperation? r.operation = some action) :
    ∃ rest, ((gatewayService component backend layers).call custom r).1.lazily =
        .emit ((gatewayApi component backend).dispatchEvent action)
          (.openSpan (gatewaySpan component action r) rest) ∧
      ∀ a, rest.Can a → a = .call (gatewayCall action r) := by
  induction layers with
  | nil =>
      refine ⟨(consultBackend backend action r).bind settle, ?_, fun a hcan => can_consultBackend hcan⟩
      exact dispatch_of_known component backend custom h
  | cons elapsed layers ih =>
      obtain ⟨rest, hrest, hcan⟩ := ih
      let report (reply : Reply) : Job Reply :=
        .emit (outcomeEvent elapsed r.operation reply) (.done reply)
      have hlayer : ((gatewayService component backend (elapsed :: layers)).call custom r).1.lazily =
          ((gatewayService component backend layers).call custom r).1.lazily.bind report := rfl
      refine ⟨rest.bind report, ?_, ?_⟩
      · rw [hlayer, hrest]
        rfl
      · intro a h
        rcases Job.Can.of_bind h with h | ⟨reply, h⟩
        · exact hcan a h
        · exact False.elim h

/-- Behind any layers the dispatcher calls nobody but the backend for a request of the API. -/
theorem can_call_gatewayService {component : String} {backend : Backend} {layers : List String}
    {custom : Operations} {call : Call}
    (hr : GatewayAction.ofOperation? r.operation = some action)
    (h : ((gatewayService component backend layers).call custom r).1.lazily.Can (.call call)) :
    call = gatewayCall action r := by
  obtain ⟨rest, hrest, hcan⟩ := exists_call_gatewayService component backend layers custom hr
  rw [hrest] at h
  rcases h with h | h
  · cases h
  · exact Act.call.inj (hcan _ h)

end Dispatcher

end DeviceMessaging
