import DeviceMessaging.DeviceConnection.Action
import DeviceMessaging.DeviceConnection.Backend
import DeviceMessaging.Api
import DeviceMessaging.RequestSpan

/-!
# `DeviceConnection.Api` — the Device Connection API over a backend

A request is checked before the backend hears of it: each action has its mandatory ids, and an empty id
counts as missing.

## Contents
- `mandatoryFields`, `missingFields`: what a request has to carry and what it lacks.
- `processGateway`: the processing of one request.
- `gatewayApi`: the API, ready for a dispatcher.
-/

namespace DeviceMessaging

/-- The component that request spans name unless another one is configured. -/
def defaultComponent : String := "DeviceConnectionAdapter"

/-! ## Validation -/

/-- An id that is there and not empty. -/
def presentId (id : Option String) : Option String := id.filter fun s => decide (s ≠ "")

/-- The ids that an action cannot do without, with their names. -/
def mandatoryFields (action : GatewayAction) (r : Request) : List (String × Option String) :=
  match action with
  | .get => [("tenant_id", r.tenant), ("device_id", r.device)]
  | .set => [("tenant_id", r.tenant), ("device_id", r.device), ("gateway_id", r.gateway)]

/-- The names of the mandatory ids that a request lacks. -/
def missingFields (action : GatewayAction) (r : Request) : List String :=
  ((mandatoryFields action r).filter fun f => (presentId f.2).isNone).map Prod.fst

/-- The error for missing ids. -/
def missingError (names : List String) : Error := .missingRequiredField (", ".intercalate names)

/-- The event for missing ids. -/
def missingEvent (action : GatewayAction) : Event :=
  let message := match action with
    | .get => "missing tenant and/or device"
    | .set => "missing tenant, device and/or gateway"
  { level := .error, origin := .deviceConnection, message, fields := [] }

/-! ## Processing -/

/-- The event that the backend is about to be called. -/
def gatewayEvent (message : String) (fields : Fields) : Event :=
  { level := .debug, origin := .deviceConnection, message, fields }

/-- Waits for the backend and turns its answer into the reply to a request. -/
def replyOf (r : Request) (answer : Answer GatewayResult) : Job Reply := do
  let outcome ← answer.await
  return outcome.map fun result => result.toResponse r

/-- Checks a request and passes it to the backend. -/
def consultBackend (backend : Backend) (action : GatewayAction) (r : Request) : Job Reply :=
  let refuse : Job Reply := do
    Job.event (missingEvent action)
    return .error (missingError (missingFields action r))
  match action with
  | .get =>
    match presentId r.tenant, presentId r.device with
    | some t, some d => do
      Job.event (gatewayEvent "getting last known gateway" [("tenant_id", t), ("device_id", d)])
      Job.call (.getGateway t d)
      replyOf r (backend.getGateway t d)
    | _, _ => refuse
  | .set =>
    match presentId r.tenant, presentId r.device, presentId r.gateway with
    | some t, some d, some g => do
      Job.event (gatewayEvent "setting last known gateway"
        [("tenant_id", t), ("device_id", d), ("gateway_id", g)])
      Job.call (.setGateway t d g)
      replyOf r (backend.setGateway t d g)
    | _, _, _ => refuse

/-- The ids with which the span of a request is tagged; only setting a gateway shows the gateway. -/
def gatewayTags (action : GatewayAction) (r : Request) : SpanTags :=
  match action with
  | .get => { tenant := r.tenant, device := r.device }
  | .set => { tenant := r.tenant, device := r.device, gateway := r.gateway }

/-- Processes a request in a span of its own. -/
def processGateway (component : String) (backend : Backend) (action : GatewayAction) (r : Request) :
    Job Reply :=
  Job.inRequestSpan (requestSpan component action.spanName r.headers (gatewayTags action r))
    (consultBackend backend action r)

/-- The Device Connection API. -/
def gatewayApi (component : String) (backend : Backend) : Api where
  Action := GatewayAction
  component := component
  resolve := GatewayAction.ofOperation?
  actionName := GatewayAction.name
  process := processGateway component backend

end DeviceMessaging
