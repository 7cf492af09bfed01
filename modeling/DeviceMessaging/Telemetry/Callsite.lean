import DeviceMessaging.Journal

/-!
# `Telemetry.Callsite` — what is known of records before they are made

All records that one place in the program makes have the same level, target and names of fields. Filters
decide by these.

## Contents
- `Callsite`, with `Event.callsite` and `SpanSpec.callsite`.
-/

namespace DeviceMessaging

/-- A place in the program where records are made. -/
structure Callsite where
  /-- The name of the spans that open there; none for events. -/
  span? : Option String
  target : String
  level : Level
  /-- The names of all fields that the records can have. -/
  fields : List String

/-- The callsite of an event. The message counts as a field. -/
def Event.callsite (e : Event) : Callsite where
  span? := none
  target := e.origin.target
  level := e.level
  fields := "message" :: e.fields.map Prod.fst

/-- The callsite of a span. -/
def SpanSpec.callsite (s : SpanSpec) : Callsite where
  span? := some s.name
  target := s.origin.target
  level := s.level
  fields := s.fields.map Prod.fst ++ s.openFields

end DeviceMessaging
