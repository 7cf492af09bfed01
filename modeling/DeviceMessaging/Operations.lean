import DeviceMessaging.Job

/-!
# `Operations` — handlers for operations beyond those of an API

A registry names a handler for any number of operations, and a fallback for all others. Without a
fallback of its own it refuses what it does not know.

## Contents
- `Handler`, `Operations`, with `withHandler`, `withFallback`, `contains`.
- `Operations.selected`: which handler an operation gets.
- `Operations.process`.
-/

namespace DeviceMessaging

/-- What serves a custom operation. -/
abbrev Handler := Request → Answer Response

/-- Handlers by operation, and the one for all other operations. -/
structure Operations where
  handlers : Keyed String Handler
  fallback : Option Handler

namespace Operations

/-- The registry without handlers, which refuses everything. -/
def standard : Operations := ⟨Keyed.empty, none⟩

/-- Lets a handler serve an operation, in place of the one before. -/
def withHandler (ops : Operations) (operation : String) (handler : Handler) : Operations :=
  { ops with handlers := ops.handlers.insert operation handler }

/-- Lets a handler serve all operations without a handler of their own. -/
def withFallback (ops : Operations) (handler : Handler) : Operations :=
  { ops with fallback := some handler }

/-- Whether an operation has a handler of its own. -/
def contains (ops : Operations) (operation : String) : Bool := ops.handlers.contains operation

/-- The handler that an operation gets, with the operation's name if the handler is its own. -/
def selected (ops : Operations) (operation : String) : Option (Option String × Handler) :=
  match ops.handlers.find? operation with
  | some h => some (some operation, h)
  | none => ops.fallback.map fun h => (none, h)

/-- The event for an operation that nobody serves. -/
def refusalEvent (operation : String) : Event :=
  { level := .debug, origin := .customOperations,
    message := "invalid operation in request message", fields := [("operation", operation)] }

/-- Serves a request with the handler of its operation, or refuses it. -/
def process (ops : Operations) (r : Request) : Job Reply :=
  match ops.selected r.operation with
  | some (name, handler) => do
    Job.call (.handler name r)
    (handler r).await
  | none => do
    Job.event (refusalEvent r.operation)
    return .error (.unsupportedOperation r.operation)

end Operations

end DeviceMessaging
