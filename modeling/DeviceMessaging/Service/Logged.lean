import DeviceMessaging.Service.Basic

/-!
# `Service.Logged` — a layer that logs the outcome of each request

The layer around a service answers as the service does, and writes one event per finished request:
`INFO` for a response whatever its status, `WARN` for an error of the caller and `ERROR` for any other.

## Contents
- `outcomeEvent`: the event of an outcome.
- `Service.logged`: the layer.
-/

namespace DeviceMessaging

/-- The event for the outcome of a request; `elapsed` is the text of the milliseconds it took. -/
def outcomeEvent (elapsed operation : String) (reply : Reply) : Event :=
  let status := Text.decimal (replyStatus reply).toNat
  let fields : Fields :=
    [("operation", operation), ("status", status), ("duration_ms", elapsed)]
  let tail := operation ++ " in " ++ elapsed ++ "ms [" ++ status ++ "]"
  match reply with
  | .ok _ =>
    { level := .info, origin := .logging, message := "processed " ++ tail, fields }
  | .error e =>
    let fields := fields ++ [("error", e.message)]
    if e.isClientError then
      { level := .warn, origin := .logging,
        message := "rejected " ++ tail ++ ": " ++ e.message, fields }
    else
      { level := .error, origin := .logging,
        message := "failed to process " ++ tail ++ ": " ++ e.message, fields }

/-- The layer around a service. A call takes the instance that was made ready along, to call it when its
job is first polled, and leaves a clone behind. -/
def Service.logged {ι : Type} (elapsed : String) (S : Service ι) : Service ι where
  pollReady := S.pollReady
  clone := S.clone
  call i r :=
    let job : Job Reply := do
      let reply ← (S.call i r).1.lazily
      Job.event (outcomeEvent elapsed r.operation reply)
      return reply
    (⟨[], job⟩, S.clone i)
  patience := S.patience
  patience_lt := S.patience_lt

end DeviceMessaging
