import DeviceMessaging.Error
import DeviceMessaging.Text.Split

/-!
# `TopicPath` — the segments of a topic

A topic without its bag reads endpoint, tenant, device and then any number of further segments,
separated by slashes. An empty tenant or device segment counts as absent; further segments are kept as
they are.

## Contents
- `TopicPath`, with `parse` and `render`.
- `TopicFault`: the segment that a topic lacks, and `TopicFault.toError`.
- `requireTenant`, `requireDevice`.
-/

namespace DeviceMessaging

/-- The segments of a topic. -/
@[ext] structure TopicPath where
  endpoint : String
  tenant : Option String
  device : Option String
  extras : List String
  deriving DecidableEq

/-- The segment that is missing, with the topic that lacks it. -/
inductive TopicFault where
  | noEndpoint (topic : String)
  | noTenant (topic : String)
  | noDevice (topic : String)
  deriving DecidableEq

namespace TopicFault

/-- The form that a topic with an identity has. -/
def expectedForm : String := "'\x7bendpoint\x7d/\x7btenant_id\x7d/\x7bdevice_id\x7d'"

/-- What is wrong, in words. -/
def detail : TopicFault → String
  | noEndpoint t => "Endpoint missing in topic '" ++ t ++ "'"
  | noTenant t => "Tenant ID missing in topic '" ++ t ++ "': expected " ++ expectedForm
  | noDevice t => "Device ID missing in topic '" ++ t ++ "': expected " ++ expectedForm

/-- The fault as an error of the library. -/
def toError (f : TopicFault) : Error := .malformedTopic f.detail

end TopicFault

namespace TopicPath

/-- An id segment: absent if there is no such segment or it is empty. -/
def idSegment (segment : Option String) : Option String := segment.filter fun s => decide (s ≠ "")

/-- Reads a topic; only the endpoint segment has to be there. -/
def parse (topic : String) : Except TopicFault TopicPath :=
  match Text.segments '/' topic with
  | [] => .error (.noEndpoint topic)
  | endpoint :: rest =>
    if endpoint = "" then .error (.noEndpoint topic)
    else .ok {
      endpoint
      tenant := idSegment rest[0]?
      device := idSegment rest[1]?
      extras := rest.drop 2 }

/-- The id segments that have to be written for what follows them to stay in its place. -/
def idSegments (p : TopicPath) : List String :=
  match p.tenant, p.device, p.extras with
  | none, none, [] => []
  | some t, none, [] => [t]
  | t, d, _ => [t.getD "", d.getD ""]

/-- The text of a topic. -/
def render (p : TopicPath) : String := "/".intercalate (p.endpoint :: p.idSegments ++ p.extras)

/-- The tenant, or the fault that there is none. -/
def requireTenant (p : TopicPath) : Except TopicFault String :=
  match p.tenant with
  | some t => .ok t
  | none => .error (.noTenant p.render)

/-- The device, or the fault that there is none. -/
def requireDevice (p : TopicPath) : Except TopicFault String :=
  match p.device with
  | some d => .ok d
  | none => .error (.noDevice p.render)

end TopicPath

end DeviceMessaging
