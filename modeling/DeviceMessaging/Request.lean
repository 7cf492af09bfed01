import DeviceMessaging.CacheDirective
import DeviceMessaging.Json
import DeviceMessaging.Trace.Headers

/-!
# `Request` — requests and their responses

Every id of a request is optional; which of them are mandatory depends on the operation. A payload that
is absent differs from a payload that is `null`.

## Contents
- `Request` and `Request.respond`.
- `Response` and `Response.isSuccess`.
- `Reply`: what a service answers.
-/

namespace DeviceMessaging

/-- A request to a service. -/
structure Request where
  operation : String
  tenant : Option String := none
  device : Option String := none
  gateway : Option String := none
  payload : Option Json := none
  /-- Headers that name the caller's span, if the caller sent any. -/
  headers : Option Headers := none
  /-- The token by which the caller finds the response to the request. -/
  correlation : Option String := none

/-- The response to a request. -/
structure Response where
  status : Status
  payload : Option Json := none
  cacheDirective : Option CacheDirective := none
  correlation : Option String := none

/-- What a service answers. -/
abbrev Reply := Except Error Response

/-- A response to the request, which carries the request's correlation token. -/
def Request.respond (r : Request) (status : Status) : Response :=
  { status, correlation := r.correlation }

namespace Response

/-- Whether the status is in the class of success. -/
def isSuccess (r : Response) : Bool := r.status.isSuccess

end Response

/-- The status of a reply: that of the response, or that of the error. -/
def replyStatus : Reply → Status
  | .ok r => r.status
  | .error e => e.status

end DeviceMessaging
