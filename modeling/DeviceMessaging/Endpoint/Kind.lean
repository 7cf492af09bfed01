/-!
# `Endpoint.Kind` — the kinds of inbound traffic

## Contents
- `EndpointKind`, with `name`, `isKnown` and `ofName?`.
-/

namespace DeviceMessaging

/-- The kind of traffic that an endpoint receives. -/
inductive EndpointKind where
  | telemetry
  | event
  | command
  /-- The name of the endpoint is not in the table. -/
  | unknown
  deriving DecidableEq

namespace EndpointKind

/-- The canonical name of a kind. -/
def name : EndpointKind → String
  | telemetry => "telemetry"
  | event => "event"
  | command => "command"
  | unknown => "unknown"

/-- Whether the kind is one of those that the library serves. -/
def isKnown (k : EndpointKind) : Bool := k != unknown

/-- The known kind of a canonical name. -/
def ofName? (name : String) : Option EndpointKind :=
  if name = "telemetry" then some telemetry
  else if name = "event" then some event
  else if name = "command" then some command
  else none

theorem ofName?_eq_some_iff {n : String} {k : EndpointKind} :
    ofName? n = some k ↔ k ≠ unknown ∧ n = k.name := by
  unfold ofName?
  constructor
  · intro h
    split at h
    · next hn => cases h; exact ⟨by decide, hn⟩
    · split at h
      · next hn => cases h; exact ⟨by decide, hn⟩
      · split at h
        · next hn => cases h; exact ⟨by decide, hn⟩
        · cases h
  · rintro ⟨hk, rfl⟩
    cases k with
    | unknown => exact absurd rfl hk
    | telemetry => rfl
    | event => rfl
    | command => rfl

end EndpointKind

end DeviceMessaging
