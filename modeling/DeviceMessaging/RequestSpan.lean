import DeviceMessaging.Job

/-!
# `RequestSpan` — the span of one request and its outcome

Every request that an API processes runs in a span of its own. The span does not inherit the span that
is current at the caller; it continues the trace that the request's headers name.

## Contents
- `SpanTags` and `SpanTags.present`: the ids that a span is tagged with.
- `requestSpan`: the span.
- `noteOutcome`, `Job.inRequestSpan`: running a request in its span and recording the outcome on it.
-/

namespace DeviceMessaging

/-- The ids that a request span is tagged with. -/
structure SpanTags where
  tenant : Option String := none
  device : Option String := none
  gateway : Option String := none

/-- The tags that are there, empty texts included. -/
def SpanTags.present (t : SpanTags) : Fields :=
  [("tenant_id", t.tenant), ("device_id", t.device), ("gateway_id", t.gateway)].filterMap
    fun (name, value) => value.map (name, ·)

/-- The span of a request. -/
def requestSpan (component name : String) (headers : Option Headers) (tags : SpanTags) : SpanSpec where
  name := "service_request"
  origin := .requestSpan
  level := .info
  fields := [("otel.name", name), ("otel.kind", "server"), ("component", component)] ++ tags.present
  openFields := ["tenant_id", "device_id", "gateway_id", "http.status_code", "otel.status_code",
    "otel.status_description"]
  parent := .headers headers

/-- The event of a request that fails. -/
def failureEvent (e : Error) : Event :=
  { level := .debug, origin := .requestSpan, message := "request failed",
    fields := [("error", e.message)] }

/-- Records the outcome of a request on the innermost span. A response counts as success whatever its
status. -/
def noteOutcome : Reply → Job Unit
  | .ok r => do
    Job.note "http.status_code" (Text.decimal r.status.toNat)
    Job.note "otel.status_code" "OK"
  | .error e => do
    Job.note "http.status_code" (Text.decimal e.status.toNat)
    Job.note "otel.status_code" "ERROR"
    Job.note "otel.status_description" e.message
    Job.event (failureEvent e)

/-- Runs a request in a span and records the outcome on it. -/
def Job.inRequestSpan (spec : SpanSpec) (body : Job Reply) : Job Reply :=
  Job.inSpan spec do
    let reply ← body
    noteOutcome reply
    return reply

end DeviceMessaging
