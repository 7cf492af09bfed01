import DeviceMessaging.DeviceConnection.Api
import DeviceMessaging.Proofs.RequestSpan
import DeviceMessaging.Proofs.Service.Layers

/-!
# `Proofs.DeviceConnection.Dispatch` — the course of a dispatched request

A request to the Device Connection API takes one of four ways: it is refused for missing ids, it is
answered by the backend, it is answered by a custom handler, or nobody serves it. This file writes each of
them down as a list of entries with a reply, and proves that the dispatcher takes exactly that way.

## Contents
- `consultBackend_of_complete`, `consultBackend_of_missing`: the two ways through validation.
- `gatewayCall`, `Backend.answer`, `gatewayReply`: what the backend is asked, and what comes of it.
- `consultEntries`, `gatewayEntries`, with `course_processGateway`.
- `Operations.reply`, `Operations.entries`, with `Operations.course_process`.
- `dispatchReply`, `dispatchEntries`, with `course_dispatch`.
- `gatewayService`, `course_call_gatewayService`: the same behind logging layers.
-/

namespace DeviceMessaging

/-! ## Validation -/

theorem presentId_eq_some_iff {id : Option String} {s : String} :
    presentId id = some s ↔ id = some s ∧ s ≠ "" := by
  simp [presentId, Option.filter_eq_some_iff]

theorem presentId_of_isSome {id : Option String} (h : (presentId id).isSome) :
    presentId id = some (id.getD "") := by
  obtain ⟨s, hs⟩ := Option.isSome_iff_exists.mp h
  rw [hs, (presentId_eq_some_iff.mp hs).1, Option.getD_some]

/-- Nothing is missing when every mandatory id is there and not empty. -/
theorem missingFields_eq_nil_iff {action : GatewayAction} {r : Request} :
    missingFields action r = [] ↔ ∀ f ∈ mandatoryFields action r, (presentId f.2).isSome := by
  simp [missingFields, List.filter_eq_nil_iff, Option.isSome_iff_ne_none]

/-! ## Asking the backend -/

/-- The call by which the backend hears of a request. -/
def gatewayCall (action : GatewayAction) (r : Request) : Call :=
  match action with
  | .get => .getGateway (r.tenant.getD "") (r.device.getD "")
  | .set => .setGateway (r.tenant.getD "") (r.device.getD "") (r.gateway.getD "")

/-- The event in front of that call. -/
def consultEvent (action : GatewayAction) (r : Request) : Event :=
  match action with
  | .get => gatewayEvent "getting last known gateway"
    [("tenant_id", r.tenant.getD ""), ("device_id", r.device.getD "")]
  | .set => gatewayEvent "setting last known gateway"
    [("tenant_id", r.tenant.getD ""), ("device_id", r.device.getD ""), ("gateway_id", r.gateway.getD "")]

/-- What the backend answers to a request. -/
def Backend.answer (backend : Backend) (action : GatewayAction) (r : Request) : Answer GatewayResult :=
  match action with
  | .get => backend.getGateway (r.tenant.getD "") (r.device.getD "")
  | .set => backend.setGateway (r.tenant.getD "") (r.device.getD "") (r.gateway.getD "")

theorem consultBackend_of_complete (backend : Backend) {action : GatewayAction} {r : Request}
    (h : missingFields action r = []) :
    consultBackend backend action r =
      .emit (consultEvent action r)
        (.invoke (gatewayCall action r) (replyOf r (backend.answer action r))) := by
  rw [missingFields_eq_nil_iff] at h
  cases action with
  | get =>
      have ht := presentId_of_isSome (h ("tenant_id", r.tenant) (by simp [mandatoryFields]))
      have hd := presentId_of_isSome (h ("device_id", r.device) (by simp [mandatoryFields]))
      simp only [consultBackend, ht, hd]
      rfl
  | set =>
      have ht := presentId_of_isSome (h ("tenant_id", r.tenant) (by simp [mandatoryFields]))
      have hd := presentId_of_isSome (h ("device_id", r.device) (by simp [mandatoryFields]))
      have hg := presentId_of_isSome (h ("gateway_id", r.gateway) (by simp [mandatoryFields]))
      simp only [consultBackend, ht, hd, hg]
      rfl

theorem consultBackend_of_missing (backend : Backend) {action : GatewayAction} {r : Request}
    (h : missingFields action r ≠ []) :
    consultBackend backend action r =
      .emit (missingEvent action) (.done (.error (missingError (missingFields action r)))) := by
  rw [ne_eq, missingFields_eq_nil_iff] at h
  cases action with
  | get =>
      simp only [consultBackend]
      split
      · next ht hd => exact absurd (by simp [mandatoryFields, ht, hd]) h
      · rfl
  | set =>
      simp only [consultBackend]
      split
      · next ht hd hg => exact absurd (by simp [mandatoryFields, ht, hd, hg]) h
      · rfl

/-! ## The course of a request -/

variable (tracing : Tracing) (ambient : List OpenSpan)

/-- Waiting for an answer leaves no entries. -/
@[simp] theorem course_await {α : Type} (a : Answer α) (held : List OpenSpan) (next : Nat) :
    a.await.course tracing ambient held next = ([], ⟨a.outcome, held, next⟩) := by
  rw [Answer.await, Job.bind_eq, Job.pause, Job.bind_delayed, Job.course_delayed]
  rfl

@[simp] theorem course_replyOf (r : Request) (a : Answer GatewayResult) (held : List OpenSpan)
    (next : Nat) :
    (replyOf r a).course tracing ambient held next =
      ([], ⟨a.outcome.map fun result => result.toResponse r, held, next⟩) := by
  rw [replyOf, Job.bind_eq, Job.course_bind, course_await]
  rfl

/-- The reply of the API to a request. -/
def gatewayReply (backend : Backend) (action : GatewayAction) (r : Request) : Reply :=
  if missingFields action r = [] then
    (backend.answer action r).outcome.map fun result => result.toResponse r
  else .error (missingError (missingFields action r))

/-- What checking a request and asking the backend leaves behind. -/
def consultEntries (action : GatewayAction) (r : Request) (scope : List Nat) : List Entry :=
  if missingFields action r = [] then
    [.event (consultEvent action r) scope, .called (gatewayCall action r) scope]
  else [.event (missingEvent action) scope]

theorem calls_consultEntries (action : GatewayAction) (r : Request) (scope : List Nat) :
    Journal.calls (consultEntries action r scope) =
      if missingFields action r = [] then [gatewayCall action r] else [] := by
  by_cases h : missingFields action r = []
  · rw [consultEntries, if_pos h, if_pos h]
    rfl
  · rw [consultEntries, if_neg h, if_neg h]
    rfl

theorem course_consultBackend (backend : Backend) (action : GatewayAction) (r : Request)
    (held : List OpenSpan) (next : Nat) :
    (consultBackend backend action r).course tracing ambient held next =
      (consultEntries action r (numbers (held ++ ambient)),
        ⟨gatewayReply backend action r, held, next⟩) := by
  by_cases h : missingFields action r = []
  · rw [consultBackend_of_complete backend h, consultEntries, if_pos h, gatewayReply, if_pos h]
    simp
  · rw [consultBackend_of_missing backend h, consultEntries, if_neg h, gatewayReply, if_neg h]
    simp

/-- The span of a request to the API. -/
def gatewaySpan (component : String) (action : GatewayAction) (r : Request) : SpanSpec :=
  requestSpan component action.spanName r.headers (gatewayTags action r)

/-- What a request to the API leaves behind, in spans from number `next` on. -/
def gatewayEntries (component : String) (backend : Backend) (action : GatewayAction) (r : Request)
    (held : List OpenSpan) (next : Nat) : List Entry :=
  let span := gatewaySpan component action r
  let scope := next :: numbers (held ++ ambient)
  .opened (Job.spanAt tracing ambient held next span) span (tracing.propagator.parent? r.headers) ::
    (consultEntries action r scope ++ outcomeEntries next scope (gatewayReply backend action r) ++
      [.closed next])

theorem course_processGateway (component : String) (backend : Backend) (action : GatewayAction)
    (r : Request) (held : List OpenSpan) (next : Nat) :
    (processGateway component backend action r).course tracing ambient held next =
      (gatewayEntries tracing ambient component backend action r held next,
        ⟨gatewayReply backend action r, held, next + 1⟩) :=
  course_inRequestSpan tracing ambient (course_consultBackend tracing ambient backend action r _ _)

theorem calls_gatewayEntries (component : String) (backend : Backend) (action : GatewayAction)
    (r : Request) (held : List OpenSpan) (next : Nat) :
    Journal.calls (gatewayEntries tracing ambient component backend action r held next) =
      if missingFields action r = [] then [gatewayCall action r] else [] := by
  simp [gatewayEntries, calls_consultEntries]

/-- The reply of the registry of custom operations to a request. -/
def Operations.reply (ops : Operations) (r : Request) : Reply :=
  match ops.selected r.operation with
  | some (_, handler) => (handler r).outcome
  | none => .error (.unsupportedOperation r.operation)

/-- What a request to the registry of custom operations leaves behind. -/
def Operations.entries (ops : Operations) (r : Request) (scope : List Nat) : List Entry :=
  match ops.selected r.operation with
  | some (name, _) => [.called (.handler name r) scope]
  | none => [.event (Operations.refusalEvent r.operation) scope]

theorem Operations.course_process (ops : Operations) (r : Request) (held : List OpenSpan) (next : Nat) :
    (ops.process r).course tracing ambient held next =
      (ops.entries r (numbers (held ++ ambient)), ⟨ops.reply r, held, next⟩) := by
  rw [Operations.process, Operations.entries, Operations.reply]
  cases ops.selected r.operation with
  | some selected =>
      simp only [Job.bind_eq, Job.call, Job.bind, Job.course_invoke, course_await]
  | none => rfl

/-- The reply of the dispatcher to a request. -/
def dispatchReply (backend : Backend) (custom : Operations) (r : Request) : Reply :=
  match GatewayAction.ofOperation? r.operation with
  | some action => gatewayReply backend action r
  | none => custom.reply r

/-- What dispatching a request leaves behind, in spans from number `next` on. -/
def dispatchEntries (component : String) (backend : Backend) (custom : Operations) (r : Request)
    (held : List OpenSpan) (next : Nat) : List Entry :=
  match GatewayAction.ofOperation? r.operation with
  | some action =>
    .event ((gatewayApi component backend).dispatchEvent action) (numbers (held ++ ambient)) ::
      gatewayEntries tracing ambient component backend action r held next
  | none => custom.entries r (numbers (held ++ ambient))

/-- **The course of a dispatched request.** -/
theorem course_dispatch (component : String) (backend : Backend) (custom : Operations) (r : Request)
    (held : List OpenSpan) (next : Nat) :
    ∃ after, ((gatewayApi component backend).dispatch custom r).course tracing ambient held next =
      (dispatchEntries tracing ambient component backend custom r held next,
        ⟨dispatchReply backend custom r, held, after⟩) := by
  have hresolve : (gatewayApi component backend).resolve = GatewayAction.ofOperation? := rfl
  unfold Api.dispatch dispatchEntries dispatchReply
  rw [hresolve]
  cases GatewayAction.ofOperation? r.operation with
  | some action =>
      exact ⟨next + 1, congrArg (fun c => (_ :: c.1, c.2))
        (course_processGateway tracing ambient component backend action r held next)⟩
  | none => exact ⟨next, custom.course_process tracing ambient r held next⟩

/-! ## Behind logging layers -/

/-- The dispatcher of the API behind logging layers. -/
def gatewayService (component : String) (backend : Backend) (layers : List String) :
    Service Operations :=
  (gatewayApi component backend).dispatcher.layered layers

/-- **The course of a request through the layers**: the layers add their events and change nothing. -/
theorem course_call_gatewayService (component : String) (backend : Backend) (layers : List String)
    (custom : Operations) (r : Request) (held : List OpenSpan) (next : Nat) :
    ∃ after,
      ((gatewayService component backend layers).call custom r).1.lazily.course tracing ambient held next =
        (dispatchEntries tracing ambient component backend custom r held next ++
            Service.logEntries layers r.operation (dispatchReply backend custom r)
              (numbers (held ++ ambient)),
          ⟨dispatchReply backend custom r, held, after⟩) := by
  obtain ⟨after, hdispatch⟩ :=
    course_dispatch tracing ambient component backend custom r held next
  have hcall : ((gatewayApi component backend).dispatcher.call custom r).1.lazily =
      (gatewayApi component backend).dispatch custom r := rfl
  exact ⟨after, by rw [gatewayService, Service.course_layered, hcall, hdispatch]⟩

theorem oneshot_gatewayService (component : String) (backend : Backend) (layers : List String)
    (custom : Operations) (r : Request) :
    (gatewayService component backend layers).oneshot custom r =
      ((gatewayService component backend layers).call custom r).1.lazily := by
  refine Service.oneshot_of_ready ?_ r
  rw [gatewayService, Service.pollReady_layered]
  rfl

theorem clone_gatewayService (component : String) (backend : Backend) (layers : List String)
    (custom : Operations) : (gatewayService component backend layers).clone custom = custom := by
  rw [gatewayService, Service.clone_layered]
  rfl

end DeviceMessaging
