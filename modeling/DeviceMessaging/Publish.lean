import DeviceMessaging.Device
import DeviceMessaging.Endpoint.Table
import DeviceMessaging.Journal
import DeviceMessaging.PropertyBag
import DeviceMessaging.TopicPath

/-!
# `Publish` — what a published message is about

The context of a message says who published what kind of traffic. Tenant and device come from the
topic, unless the device has been authenticated: then they come from its identity and what the topic
says of them is ignored.

## Contents
- `QoS`, `Publish`: the message.
- `PublishContext`, with `contentType` and `isAuthenticated`.
- `identityOf`, `assertsOtherTenant`: whom a message is from.
- `Decoding`, `TopicResolver`, `TopicResolver.decode`: how a context is made.
-/

namespace DeviceMessaging

/-! ## Messages -/

/-- The delivery guarantee of a message. -/
inductive QoS where
  | atMostOnce
  | atLeastOnce
  | exactlyOnce
  deriving DecidableEq

/-- A published message. -/
structure Publish where
  topic : String
  qos : QoS
  payload : List UInt8
  deriving DecidableEq

/-! ## Contexts -/

/-- What a message is about. -/
structure PublishContext where
  message : Publish
  endpoint : EndpointKind
  tenant : String
  device : String
  /-- The topic without its bag. -/
  topic : String
  path : TopicPath
  bag : PropertyBag
  /-- The identity of the device, if it has been authenticated. -/
  authenticated : Option Device
  deriving DecidableEq

namespace PublishContext

/-- The parameter that names the content type of the payload. -/
def contentTypeKey : String := "content-type"

/-- Whether the device has been authenticated. -/
def isAuthenticated (c : PublishContext) : Bool := c.authenticated.isSome

/-- The segments behind the device. -/
def extras (c : PublishContext) : List String := c.path.extras

/-- The content type of the payload, if the bag names one that is not empty. -/
def contentType (c : PublishContext) : Option String :=
  (c.bag.get? contentTypeKey).filter fun v => decide (v ≠ "")

end PublishContext

/-! ## Decoding -/

/-- What comes of decoding a message, with the events written on the way. -/
structure Decoding where
  events : List Event
  outcome : Except Error PublishContext

/-- The tenant and device of a message: those of the authenticated device, else those of the topic. -/
def identityOf (path : TopicPath) : Option Device → Except TopicFault (String × String)
  | some d => .ok (d.tenant, d.device)
  | none => do
    let tenant ← path.requireTenant
    let device ← path.requireDevice
    return (tenant, device)

/-- The topic names a tenant other than that of the authenticated device. -/
def assertsOtherTenant (path : TopicPath) (device : Option Device) : Bool :=
  match path.tenant, device with
  | some t, some d => t != d.tenant
  | _, _ => false

/-- The event for a topic that names another tenant. -/
def otherTenantEvent (message : Publish) (device : Device) : Event :=
  { level := .debug, origin := .publishContext,
    message := "ignoring tenant asserted in topic of authenticated device",
    fields := [("topic", message.topic), ("tenant_id", device.tenant)] }

/-- Makes contexts with a table of endpoints. -/
structure TopicResolver where
  endpoints : EndpointTable

namespace TopicResolver

/-- The resolver with the standard table. -/
def standard : TopicResolver := ⟨EndpointTable.standard⟩

/-- The context of a message whose topic has been read. -/
def contextOf (resolver : TopicResolver) (message : Publish) (device : Option Device)
    (topic : String) (bag : PropertyBag) (path : TopicPath) : Except TopicFault PublishContext :=
  (identityOf path device).map fun (tenant, deviceId) =>
    { message, endpoint := resolver.endpoints.resolve path.endpoint, tenant, device := deviceId,
      topic, path, bag, authenticated := device }

/-- Decodes a message, of an authenticated device or of one that is not. -/
def decode (resolver : TopicResolver) (message : Publish) (device : Option Device) : Decoding :=
  let (topic, bag) := PropertyBag.split message.topic
  match TopicPath.parse topic with
  | .error f => ⟨[], .error f.toError⟩
  | .ok path =>
    { events := match device with
        | some d => if assertsOtherTenant path device then [otherTenantEvent message d] else []
        | none => []
      outcome := (resolver.contextOf message device topic bag path).mapError TopicFault.toError }

end TopicResolver

end DeviceMessaging
