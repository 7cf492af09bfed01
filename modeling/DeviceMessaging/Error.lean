import DeviceMessaging.Status
import DeviceMessaging.Text.Numeral

/-!
# `Error` — what can go wrong, with its status and text

## Contents
- `Error`: one constructor per cause.
- `Error.ofStatus`: a failure of which only the status is known.
- `Error.status`, `Error.isClientError`, `Error.message`.
-/

namespace DeviceMessaging

/-- The causes for which a topic, a request or a setting is refused. -/
inductive Error where
  /-- A topic lacks a segment. -/
  | malformedTopic (detail : String)
  /-- A request lacks mandatory fields. -/
  | missingRequiredField (fields : String)
  /-- Nobody serves the operation. -/
  | unsupportedOperation (operation : String)
  /-- A text is no cache directive. -/
  | invalidCacheDirective (value : String)
  /-- A service reported a failure with a status of its own. -/
  | serviceInvocation (status : Status) (detail : String)
  /-- A setting cannot be used. -/
  | invalidConfig (detail : String)
  /-- Anything else. -/
  | internal (detail : String)
  deriving DecidableEq

namespace Error

/-- A failure of which only the status is known; its reason phrase tells the rest. -/
def ofStatus (s : Status) : Error := .serviceInvocation s s.phrase

/-- The status that describes an error. -/
def status : Error → Status
  | .malformedTopic _ | .missingRequiredField _ | .unsupportedOperation _
  | .invalidCacheDirective _ => Status.badRequest
  | .serviceInvocation s _ => s
  | .invalidConfig _ | .internal _ => Status.internalServerError

/-- The one who asked is to blame. -/
def isClientError (e : Error) : Bool := e.status.isClientError

/-- The text of an error. -/
def message : Error → String
  | .malformedTopic d => "Malformed topic: " ++ d
  | .missingRequiredField fs => "Missing required field: " ++ fs
  | .unsupportedOperation op => "Unsupported operation: " ++ op
  | .invalidCacheDirective v => "Invalid cache directive: " ++ v
  | .serviceInvocation s d =>
    "Service invocation failed with status " ++ Text.decimal s.toNat ++ ": " ++ d
  | .invalidConfig d => "Invalid configuration: " ++ d
  | .internal d => "Internal error: " ++ d

end Error

end DeviceMessaging
