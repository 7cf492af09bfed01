import DeviceMessaging.Job
import DeviceMessaging.Telemetry.Address
import DeviceMessaging.Telemetry.Config
import DeviceMessaging.Telemetry.Filter

/-!
# `Telemetry.Setup` — starting logging and export

The filter comes from the environment if one is given there that can be read, else from the settings.
Only with export do trace contexts travel in headers, and only then is the endpoint looked at.

## Contents
- `EndpointFault`.
- `Setup`, `Setup.start`.
- `Setup.headersUnder`: what a request carries that is made in a span of a given callsite.
-/

namespace DeviceMessaging

/-- The endpoint of the export is no address. -/
structure EndpointFault where
  reason : Address.Fault
  deriving DecidableEq

/-- The text of a fault. -/
def EndpointFault.message (f : EndpointFault) : String :=
  "Exporter otlp encountered the following error(s): invalid URI " ++ f.reason.name

/-- Logging and export as they were started. -/
structure Setup where
  filter : Filter
  propagator : Propagator
  /-- Whether records are exported. -/
  exporting : Bool

namespace Setup

/-- Starts logging and export; `given` is the filter text that the environment gives. A text without
directives is a filter too, one that nothing passes. -/
def start (config : TelemetryConfig) (given : Option String) : Except EndpointFault Setup := do
  let filter := (given.bind Filter.parse?).getD (Filter.parseLenient config.logLevel)
  if config.enabled then
    (Address.check config.endpoint).mapError EndpointFault.mk
    return { filter, propagator := .traceHeaders, exporting := true }
  else return { filter, propagator := .silent, exporting := false }

/-- The tracing in force, given the headers of the requests that come in. -/
def tracing (s : Setup) (headers : List (Option Headers)) : Tracing := .forHeaders s.propagator headers

/-- The headers of a request that is made in a span of its own, which opens at a callsite: none if the
span does not pass the filter. -/
def headersUnder (s : Setup) (site : Callsite) (number : Nat) : Headers :=
  let tracing := s.tracing []
  let current := if s.filter.passes site [] then some (tracing.ids.context number none) else none
  tracing.propagator.inject current

end Setup

end DeviceMessaging
