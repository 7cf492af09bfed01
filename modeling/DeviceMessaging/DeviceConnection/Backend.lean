import DeviceMessaging.Job

/-!
# `DeviceConnection.Backend` — the store of last known gateways

## Contents
- `GatewayResult`, with `ofStatus`, `ofPayload` and `toResponse`.
- `Backend`: what answers the API's questions.
-/

namespace DeviceMessaging

/-- What the backend answers. -/
structure GatewayResult where
  status : Status
  payload : Option Json := none
  cacheDirective : Option CacheDirective := none

namespace GatewayResult

/-- A result of which only the status is given. -/
def ofStatus (status : Status) : GatewayResult := { status }

/-- A successful result with a document. -/
def ofPayload (payload : Json) : GatewayResult := { status := Status.ok, payload := some payload }

/-- The response to a request with this result. -/
def toResponse (result : GatewayResult) (r : Request) : Response :=
  { r.respond result.status with
    payload := result.payload, cacheDirective := result.cacheDirective }

end GatewayResult

/-- The store of last known gateways, as the API uses it. -/
structure Backend where
  getGateway : (tenant device : String) → Answer GatewayResult
  setGateway : (tenant device gateway : String) → Answer GatewayResult

end DeviceMessaging
