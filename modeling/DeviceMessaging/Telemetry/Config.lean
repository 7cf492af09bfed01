/-!
# `Telemetry.Config` — the settings of logging and export
-/

namespace DeviceMessaging

/-- The settings of logging and export. -/
structure TelemetryConfig where
  serviceName : String := "mqtt-adapter"
  /-- Where spans and log records are exported to. -/
  endpoint : String := "http://localhost:4317"
  /-- Whether spans and log records are exported at all. -/
  enabled : Bool := false
  /-- The filter of log records, if the environment gives none. -/
  logLevel : String := "info"
  deriving DecidableEq

end DeviceMessaging
