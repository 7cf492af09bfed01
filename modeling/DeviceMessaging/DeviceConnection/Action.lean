/-!
# `DeviceConnection.Action` — the operations of the Device Connection API

## Contents
- `GatewayAction`, with `ofOperation?`, `operation`, `spanName` and `name`.
-/

namespace DeviceMessaging

/-- What can be asked of the Device Connection API. -/
inductive GatewayAction where
  /-- Which gateway did a device last communicate through? -/
  | get
  /-- A device has just communicated through a gateway. -/
  | set
  deriving DecidableEq

namespace GatewayAction

/-- The operation that a request names. -/
def operation : GatewayAction → String
  | get => "get-last-known-gateway"
  | set => "set-last-known-gateway"

/-- The action of an operation. -/
def ofOperation? (operation : String) : Option GatewayAction :=
  if operation = get.operation then some get
  else if operation = set.operation then some set
  else none

/-- The name of the action on request spans. -/
def spanName : GatewayAction → String
  | get => "get last known gateway"
  | set => "set last known gateway"

/-- The name of the action in events. -/
def name : GatewayAction → String
  | get => "GetLastGateway"
  | set => "SetLastGateway"

theorem ofOperation?_eq_some_iff {op : String} {a : GatewayAction} :
    ofOperation? op = some a ↔ op = a.operation := by
  unfold ofOperation?
  constructor
  · intro h
    split at h
    · next ho => cases h; exact ho
    · split at h
      · next ho => cases h; exact ho
      · cases h
  · rintro rfl
    cases a <;> decide

end GatewayAction

end DeviceMessaging
