import DeviceMessaging.DeviceConnection.Api
import DeviceMessaging.Publish
import DeviceMessaging.Telemetry.Config

/-!
# `Settings.Basic` — the settings of the protocol adapter

## Contents
- `Settings`, with its defaults.
- `Settings.telemetry`, `Settings.endpointTable`, `Settings.resolver`, `Settings.gatewayApi`: what is made
  of them.
- `Settings.validate`.
-/

namespace DeviceMessaging

/-- The settings of the protocol adapter. -/
structure Settings where
  logLevel : String := "info"
  /-- Endpoint names besides the standard ones, as an alias list. -/
  endpointAliases : String := ""
  /-- The component that request spans name. -/
  componentName : String := "mqtt-adapter"
  otelEndpoint : String := "http://localhost:4317"
  otelEnabled : Bool := false
  otelServiceName : String := "mqtt-adapter"
  deriving DecidableEq

namespace Settings

/-- The telemetry part of the settings. -/
def telemetry (s : Settings) : TelemetryConfig where
  serviceName := s.otelServiceName
  endpoint := s.otelEndpoint
  enabled := s.otelEnabled
  logLevel := s.logLevel

/-- The standard endpoint names and the configured ones. -/
def endpointTable (s : Settings) : Except AliasFault EndpointTable :=
  EndpointTable.standard.withAliases s.endpointAliases

/-- The resolver over the configured endpoint names. -/
def resolver (s : Settings) : Except AliasFault TopicResolver := s.endpointTable.map TopicResolver.mk

/-- The Device Connection API under the configured component name. -/
def gatewayApi (s : Settings) (backend : Backend) : Api :=
  DeviceMessaging.gatewayApi s.componentName backend

/-- Checks that a component is named and that the aliases can be used. -/
def validate (s : Settings) : Except Error Unit :=
  if Text.trim s.componentName = "" then .error (.invalidConfig "Component name cannot be empty")
  else (s.endpointTable.mapError AliasFault.toError).map fun _ => ()

end Settings

end DeviceMessaging
