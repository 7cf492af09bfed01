import DeviceMessaging.DeviceConnection.Action
import DeviceMessaging.Service.Basic

/-!
# `DeviceConnection.Client` — asking the Device Connection API

A client belongs to a tenant and sends its requests through any service. Each call runs in a span of
its own, whose trace the request carries on.

## Contents
- `Client`, with `getGateway` and `setGateway`.
-/

namespace DeviceMessaging

/-- The requesting side of the API for one tenant, with its instance of the service. -/
structure Client (ι : Type) where
  tenant : String
  service : ι

namespace Client

variable {ι : Type}

/-- The event that a response arrived. -/
def responseEvent (operation : String) (status : Status) : Event :=
  { level := .debug, origin := .client, message := "received response",
    fields := [("operation", operation), ("status", Text.decimal status.toNat)] }

/-- Sends a request through a fresh clone of the client's instance. -/
def send (S : Service ι) (c : Client ι) (r : Request) : Job Reply := do
  let reply ← S.oneshot (S.clone c.service) r
  match reply with
  | .ok response => do
    Job.event (responseEvent r.operation response.status)
    return .ok response
  | .error e => return .error e

/-- The span of a call. -/
def callSpan (name : String) (fields : Fields) : SpanSpec :=
  { name, origin := .client, level := .info, fields, parent := .current }

/-- The document that a response to a question carries, or the error for its status. -/
def documentOf (response : Response) : Except Error Json :=
  match response.payload with
  | some p => if response.status = Status.ok then .ok p else .error (.ofStatus response.status)
  | none => .error (.ofStatus response.status)

/-- Nothing for a response that confirms, or the error for its status. -/
def confirmationOf (response : Response) : Except Error Unit :=
  if response.status = Status.noContent then .ok () else .error (.ofStatus response.status)

/-- Asks for the document that describes the gateway a device last communicated through. -/
def getGateway (S : Service ι) (c : Client ι) (device : String) : Job (Except Error Json) :=
  Job.inSpan
    (callSpan "get_last_known_gateway_for_device" [("tenant_id", c.tenant), ("device_id", device)])
    (.withHeaders fun headers => do
      let reply ← c.send S {
        operation := GatewayAction.get.operation, tenant := some c.tenant, device := some device,
        headers := some headers }
      return reply.bind documentOf)

/-- Tells the gateway that a device last communicated through. -/
def setGateway (S : Service ι) (c : Client ι) (device gateway : String) : Job (Except Error Unit) :=
  Job.inSpan
    (callSpan "set_last_known_gateway_for_device"
      [("tenant_id", c.tenant), ("device_id", device), ("gateway_id", gateway)])
    (.withHeaders fun headers => do
      let reply ← c.send S {
        operation := GatewayAction.set.operation, tenant := some c.tenant, device := some device,
        gateway := some gateway, headers := some headers }
      return reply.bind confirmationOf)

end Client

end DeviceMessaging
