import DeviceMessaging.Operations
import DeviceMessaging.Service.Basic

/-!
# `Api` — closed sets of operations, and routing to them or to custom operations

An operation that the API defines always goes to the API. All others go to the registry of custom
operations.

## Contents
- `Api`: a closed set of operations with their processing.
- `Api.dispatch`: the routing of one request.
- `Api.dispatcher`: the service, whose instances are registries of custom operations.
-/

namespace DeviceMessaging

/-- A closed set of operations with their processing. -/
structure Api where
  Action : Type
  /-- The component that request spans name. -/
  component : String
  /-- The action of an operation, if the API defines it. -/
  resolve : String → Option Action
  /-- The name of an action in events. -/
  actionName : Action → String
  process : Action → Request → Job Reply

namespace Api

/-- The event that a request goes to the API. -/
def dispatchEvent (api : Api) (action : api.Action) : Event :=
  { level := .debug, origin := .dispatcher, message := "dispatching request",
    fields := [("component", api.component), ("action", api.actionName action)] }

/-- Processes a request: by the API if it defines the operation, else by the registry. -/
def dispatch (api : Api) (custom : Operations) (r : Request) : Job Reply :=
  match api.resolve r.operation with
  | some action => do
    Job.event (api.dispatchEvent action)
    api.process action r
  | none => custom.process r

/-- The service that dispatches requests. Each instance has a registry of its own, which its clones
inherit. -/
def dispatcher (api : Api) : Service Operations where
  pollReady i := (.ready, i)
  clone i := i
  call i r := (⟨[], api.dispatch i r⟩, i)
  patience _ := 0
  patience_lt i i' h := by cases h

end Api

end DeviceMessaging
