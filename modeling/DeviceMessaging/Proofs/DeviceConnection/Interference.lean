import DeviceMessaging.Proofs.DeviceConnection.Dispatch
import DeviceMessaging.Proofs.Pool.Alone
import DeviceMessaging.Proofs.Pool.Interference

/-!
# `Proofs.DeviceConnection.Interference` — requests to the API do not interfere

Many requests may be under way at once, each in a job of its own that is polled and dropped at will. A
request is served as if it were the only one: the outcome of a request is recorded on the span that is
current at its end, and that is its own span because no span is held open across jobs.

## Contents
- `Submitted`, with `Submitted.job`: a request with its own layers, handlers and backend.
- `selfContained_dispatch`, `Submitted.selfContained_job`.
- `Call.IsFor`, `Operations.Correlates`: calls and responses that belong to a request.
- `Submitted.complete_job`: the request run to its end.
- `sight_alone_of_finished`, `calls_sight_alone`: the request alone in a pool.
- `ServedAlone` and `requests_do_not_interfere`.
-/

namespace DeviceMessaging

/-! ## Requests as jobs -/

/-- A request that is submitted to a clone of the dispatcher, behind layers that measure times of their
own. Its backend and its handlers answer as they do to this request. -/
structure Submitted where
  layers : List String
  custom : Operations
  backend : Backend
  request : Request

/-- The call that submits a request. -/
def Submitted.submission (component : String) (s : Submitted) : Submission :=
  let service := gatewayService component s.backend s.layers
  (service.call (service.clone s.custom) s.request).1

/-- The job that a submitted request comes to. -/
def Submitted.job (component : String) (s : Submitted) : Job Reply := (s.submission component).job

/-- Nothing is called before the job is polled. -/
theorem Submitted.atOnce_submission (component : String) (s : Submitted) :
    (s.submission component).atOnce = [] :=
  Service.atOnce_layered (fun _ _ => rfl) s.layers _ s.request

theorem Submitted.lazily_submission (component : String) (s : Submitted) :
    (s.submission component).lazily = s.job component := by
  rw [Submission.lazily, s.atOnce_submission component]
  rfl

/-! ## Self-contained jobs -/

theorem selfContained_await {α : Type} (a : Answer α) : a.await.SelfContained :=
  Job.SelfContained.bind (Job.SelfContained.delayed (t := .done ()) trivial a.delay) fun _ => trivial

theorem selfContained_consultBackend (backend : Backend) (action : GatewayAction) (r : Request) :
    (consultBackend backend action r).SelfContained := by
  by_cases h : missingFields action r = []
  · rw [consultBackend_of_complete backend h]
    exact (selfContained_await _).bind fun _ => trivial
  · rw [consultBackend_of_missing backend h]
    trivial

theorem selfContained_noteOutcome (reply : Reply) : (noteOutcome reply).SelfContained := by
  cases reply <;> trivial

theorem selfContained_processGateway (component : String) (backend : Backend) (action : GatewayAction)
    (r : Request) : (processGateway component backend action r).SelfContained :=
  .inSpan ⟨r.headers, rfl⟩ ((selfContained_consultBackend backend action r).bind fun reply =>
    (selfContained_noteOutcome reply).bind fun _ => trivial)

theorem selfContained_process (ops : Operations) (r : Request) : (ops.process r).SelfContained := by
  rw [Operations.process]
  cases ops.selected r.operation with
  | some selected => exact selfContained_await _
  | none => trivial

theorem selfContained_dispatch (component : String) (backend : Backend) (custom : Operations)
    (r : Request) : ((gatewayApi component backend).dispatch custom r).SelfContained := by
  rw [Api.dispatch]
  cases (gatewayApi component backend).resolve r.operation with
  | some action => exact selfContained_processGateway component backend action r
  | none => exact selfContained_process custom r

theorem selfContained_lazily {s : Submission} (h : s.job.SelfContained) : s.lazily.SelfContained := by
  rw [Submission.lazily]
  induction s.atOnce with
  | nil => exact h
  | cons c cs ih => exact ih

/-- The job of a layer is self-contained if that of the service is. -/
theorem selfContained_layered {ι : Type} {S : Service ι} {i : ι} {r : Request}
    (h : (S.call i r).1.job.SelfContained) (layers : List String) :
    ((S.layered layers).call i r).1.job.SelfContained := by
  induction layers with
  | nil => exact h
  | cons e es ih => exact (selfContained_lazily ih).bind fun _ => trivial

theorem Submitted.selfContained_job (component : String) (s : Submitted) :
    (s.job component).SelfContained :=
  selfContained_layered (selfContained_dispatch component s.backend _ s.request) s.layers

/-! ## What belongs to a request -/

/-- A call that carries the ids of a request, or the request itself. -/
def Call.IsFor (r : Request) : Call → Prop
  | .getGateway t d => r.tenant = some t ∧ r.device = some d
  | .setGateway t d g => r.tenant = some t ∧ r.device = some d ∧ r.gateway = some g
  | .handler _ r' => r' = r
  | .service _ r' => r' = r

/-- The handler that serves a request, if there is one, answers with the token of the request. -/
def Operations.Correlates (ops : Operations) (r : Request) : Prop :=
  ∀ name handler response, ops.selected r.operation = some (name, handler) →
    (handler r).outcome = .ok response → response.correlation = r.correlation

theorem gatewayCall_isFor {action : GatewayAction} {r : Request} (h : missingFields action r = []) :
    (gatewayCall action r).IsFor r := by
  have hid : ∀ f ∈ mandatoryFields action r, f.2 = some (f.2.getD "") := fun f hf =>
    (presentId_eq_some_iff.mp (presentId_of_isSome (missingFields_eq_nil_iff.mp h f hf))).1
  cases action with
  | get =>
      exact ⟨hid ("tenant_id", r.tenant) (by simp [mandatoryFields]),
        hid ("device_id", r.device) (by simp [mandatoryFields])⟩
  | set =>
      exact ⟨hid ("tenant_id", r.tenant) (by simp [mandatoryFields]),
        hid ("device_id", r.device) (by simp [mandatoryFields]),
        hid ("gateway_id", r.gateway) (by simp [mandatoryFields])⟩

/-- A request is passed on once at most, with its own ids. -/
theorem calls_dispatchEntries (tracing : Tracing) (component : String) (backend : Backend)
    (custom : Operations) (r : Request) :
    let calls := Journal.calls (dispatchEntries tracing [] component backend custom r [] 0)
    calls.length ≤ 1 ∧ ∀ c ∈ calls, c.IsFor r := by
  rw [dispatchEntries]
  cases GatewayAction.ofOperation? r.operation with
  | some action =>
      simp only [Journal.calls_event, calls_gatewayEntries]
      by_cases h : missingFields action r = []
      · rw [if_pos h]
        refine ⟨Nat.le_refl 1, ?_⟩
        intro c hc
        rw [List.mem_singleton.mp hc]
        exact gatewayCall_isFor h
      · rw [if_neg h]
        exact ⟨Nat.zero_le 1, fun c hc => absurd hc List.not_mem_nil⟩
  | none =>
      simp only [Operations.entries]
      cases custom.selected r.operation with
      | some selected =>
          refine ⟨Nat.le_refl 1, ?_⟩
          intro c hc
          rw [List.mem_singleton.mp hc]
          rfl
      | none => exact ⟨Nat.zero_le 1, fun c hc => absurd hc List.not_mem_nil⟩

theorem correlation_gatewayReply {backend : Backend} {action : GatewayAction} {r : Request}
    {response : Response} (h : gatewayReply backend action r = .ok response) :
    response.correlation = r.correlation := by
  rw [gatewayReply] at h
  split at h
  · cases houtcome : (backend.answer action r).outcome with
    | error e =>
        rw [houtcome] at h
        cases h
    | ok result =>
        rw [houtcome] at h
        cases h
        rfl
  · cases h

/-- A response carries the token of its request, provided that a handler's does. -/
theorem correlation_dispatchReply {backend : Backend} {custom : Operations} {r : Request}
    {response : Response}
    (hcustom : GatewayAction.ofOperation? r.operation = none → custom.Correlates r)
    (h : dispatchReply backend custom r = .ok response) : response.correlation = r.correlation := by
  rw [dispatchReply] at h
  cases haction : GatewayAction.ofOperation? r.operation with
  | some action =>
      rw [haction] at h
      exact correlation_gatewayReply h
  | none =>
      rw [haction] at h
      have h : custom.reply r = .ok response := h
      rw [Operations.reply] at h
      cases hselected : custom.selected r.operation with
      | some selected =>
          rw [hselected] at h
          exact hcustom haction selected.1 selected.2 response hselected h
      | none =>
          rw [hselected] at h
          cases h

/-! ## A request run to its end -/

variable (tracing : Tracing) (component : String)

theorem Submitted.complete_job (s : Submitted) :
    (s.job component).complete tracing [] [] 0 =
      (dispatchEntries tracing [] component s.backend s.custom s.request [] 0 ++
          Service.logEntries s.layers s.request.operation (dispatchReply s.backend s.custom s.request) [],
        dispatchReply s.backend s.custom s.request) := by
  obtain ⟨after, hcourse⟩ := course_call_gatewayService tracing [] component s.backend s.layers
    s.custom s.request [] 0
  have hsubmission : s.submission component =
      ((gatewayService component s.backend s.layers).call s.custom s.request).1 := by
    simp only [submission, clone_gatewayService]
  rw [Job.complete_eq_course, ← lazily_submission, hsubmission, hcourse]
  exact congrArg (·, dispatchReply s.backend s.custom s.request) (List.append_nil _)

/-- The views of all spans that a journal opens. -/
def Journal.spanViews (j : Journal) : List (Option Journal.SpanView) :=
  (Journal.openedNumbers j).map j.spanView?

/-- The events of layers outside all spans change no view. -/
theorem spanViews_append_logEntries (j : Journal) (layers : List String) (operation : String)
    (reply : Reply) :
    Journal.spanViews (j ++ Service.logEntries layers operation reply []) = Journal.spanViews j := by
  have hspans : ∀ e ∈ Service.logEntries layers operation reply [], ∀ n, n ∉ e.spans := by
    intro e he n
    rw [Service.spans_of_mem_logEntries he]
    exact List.not_mem_nil
  have hopened : Journal.openedNumbers (Service.logEntries layers operation reply []) = [] := by
    rw [Journal.openedNumbers, List.filterMap_eq_nil_iff]
    intro e he
    obtain ⟨t, -, rfl⟩ := List.mem_map.mp he
    rfl
  have hview : ∀ n, Journal.spanView? (j ++ Service.logEntries layers operation reply []) n =
      Journal.spanView? j n := by
    intro n
    rw [← Journal.spanView?_about, Journal.about_append,
      Journal.about_eq_nil fun e he => hspans e he n, List.append_nil, Journal.spanView?_about]
  unfold Journal.spanViews
  rw [Journal.openedNumbers_append, hopened, List.append_nil]
  exact List.map_congr_left fun n _ => hview n

/-- What a request comes to at its end, the layers around the dispatcher have no part in. -/
theorem Submitted.complete_job_views (s : Submitted) :
    let whole := (s.job component).complete tracing [] [] 0
    let entries := dispatchEntries tracing [] component s.backend s.custom s.request [] 0
    whole.2 = dispatchReply s.backend s.custom s.request ∧
      Journal.calls whole.1 = Journal.calls entries ∧
      Journal.spanViews whole.1 = Journal.spanViews entries := by
  rw [s.complete_job]
  refine ⟨rfl, ?_, spanViews_append_logEntries _ _ _ _⟩
  rw [Journal.calls_append, Service.calls_logEntries, List.append_nil]

/-! ## Requests alone -/

/-- The jobs of a family of requests, of which none has been polled. -/
def pooled (family : List Submitted) : Pool Reply := Pool.ofJobs (family.map (Submitted.job component)) []

section Alone

variable {moves : List Pool.Move} (hmoves : ∀ m ∈ moves, m.slot = 0)
include hmoves

/-- A request that completes alone does what it does when it is run to its end, behind any layers. -/
theorem sight_alone_of_finished (s : Submitted) {reply : Reply}
    (hreply : .finished reply ∈ ((pooled component [s]).sight tracing 0 moves).outcomes)
    (elapsed : List String) :
    let seen := (pooled component [s]).sight tracing 0 moves
    let whole := (Submitted.job component { s with layers := elapsed }).complete tracing [] [] 0
    reply = whole.2 ∧ seen.calls = Journal.calls whole.1 ∧ seen.spans = Journal.spanViews whole.1 := by
  obtain ⟨hresult, hcalls, hspans⟩ :=
    (Pool.sight_alone tracing (s.job component) hmoves).2 reply hreply
  obtain ⟨hresult', hcalls', hspans'⟩ := s.complete_job_views tracing component
  obtain ⟨hresult'', hcalls'', hspans''⟩ :=
    Submitted.complete_job_views tracing component { s with layers := elapsed }
  exact ⟨hresult.trans (hresult'.trans hresult''.symm), hcalls.trans (hcalls'.trans hcalls''.symm),
    hspans.trans (hspans'.trans hspans''.symm)⟩

/-- The calls of a request alone are the first of those that it makes in all. -/
theorem calls_sight_alone (s : Submitted) :
    let calls := ((pooled component [s]).sight tracing 0 moves).calls
    calls.length ≤ 1 ∧ ∀ c ∈ calls, c.IsFor s.request := by
  obtain ⟨⟨later, hcalls⟩, -⟩ := Pool.sight_alone tracing (s.job component) hmoves
  obtain ⟨hlength, hfor⟩ := calls_dispatchEntries tracing component s.backend s.custom s.request
  rw [(s.complete_job_views tracing component).2.1] at hcalls
  rw [hcalls] at hlength hfor
  constructor
  · rw [List.length_append] at hlength
    exact Nat.le_trans (Nat.le_add_right _ _) hlength
  · intro c hc
    exact hfor c (List.mem_append_left later hc)

end Alone

/-! ## Requests among others -/

/-- The request `s` in slot `i` of a family is served as if it were alone, under a schedule that polls and
drops the jobs of the whole family. -/
structure ServedAlone (family : List Submitted) (schedule : List Pool.Move) (i : Nat) (s : Submitted) :
    Prop where
  /-- What can be seen of the request is what can be seen of it alone, after its own moves. -/
  alone : (pooled component family).sight tracing i schedule =
    (pooled component [s]).sight tracing 0 (Pool.share i schedule)
  /-- If the request completes, it does what it does when it is run to its end alone, also behind layers
  that measure other times. -/
  completed : ∀ reply, .finished reply ∈ ((pooled component family).sight tracing i schedule).outcomes →
    ∀ elapsed,
      let whole := (Submitted.job component { s with layers := elapsed }).complete tracing [] [] 0
      reply = whole.2 ∧
        ((pooled component family).sight tracing i schedule).calls = Journal.calls whole.1 ∧
        ((pooled component family).sight tracing i schedule).spans = Journal.spanViews whole.1
  /-- Its response carries its own token; a custom handler has to see to that itself. -/
  correlated : ∀ response,
    .finished (.ok response) ∈ ((pooled component family).sight tracing i schedule).outcomes →
    (GatewayAction.ofOperation? s.request.operation = none → s.custom.Correlates s.request) →
    response.correlation = s.request.correlation
  /-- It is passed on once at most, with its own ids. -/
  calls : ((pooled component family).sight tracing i schedule).calls.length ≤ 1 ∧
    ∀ c ∈ ((pooled component family).sight tracing i schedule).calls, c.IsFor s.request
  /-- Nothing that another request writes is about one of its spans. -/
  apart : ∀ d ∈ (pooled component family).log tracing schedule, d.slot ≠ i → ∀ e ∈ d.entries,
    ∀ n ∈ Journal.openedNumbers ((pooled component family).ownEntries tracing i schedule), n ∉ e.spans
  /-- Dropping another request makes no difference to it. -/
  undisturbed : ∀ j before after, j ≠ i → schedule = before ++ .drop j :: after →
    (pooled component family).sight tracing i schedule =
      (pooled component family).sight tracing i (before ++ after)

/-- **Requests do not interfere**: under every schedule, each request of a family is served as if it were
alone. -/
theorem requests_do_not_interfere (family : List Submitted) (schedule : List Pool.Move)
    (i : Fin family.length) : ServedAlone tracing component family schedule i family[i] := by
  have hi : (family.map (Submitted.job component))[i.val]? = some (family[i].job component) := by
    simp
  have hjob := family[i].selfContained_job component
  have hshare : ∀ m ∈ Pool.share i schedule, m.slot = 0 := fun m => Pool.slot_of_mem_share
  -- all but the spans of others can be read off the request alone
  have halone : ∀ moves, (pooled component family).sight tracing i moves =
      (pooled component [family[i]]).sight tracing 0 (Pool.share i moves) :=
    Pool.sight_eq_alone tracing hi hjob
  constructor
  case alone => exact halone schedule
  case completed =>
    intro reply hreply elapsed
    rw [halone] at hreply ⊢
    exact sight_alone_of_finished tracing component hshare family[i] hreply elapsed
  case correlated =>
    intro response hresponse hcustom
    rw [halone] at hresponse
    obtain ⟨hreply, -⟩ :=
      sight_alone_of_finished tracing component hshare family[i] hresponse family[i].layers
    exact correlation_dispatchReply hcustom
      ((family[i].complete_job_views tracing component).1.symm.trans hreply.symm)
  case calls =>
    rw [halone]
    exact calls_sight_alone tracing component hshare family[i]
  case apart => exact Pool.apart_of_selfContained tracing hi hjob schedule
  case undisturbed =>
    intro j before after hj hschedule
    rw [halone, halone, hschedule, Pool.share_append, Pool.share_append,
      Pool.share_cons_of_ne (m := .drop j) hj]

/-- Two lookups whose backends take one poll more, of which the second is dropped in between. -/
example :
    let lookup (device : String) (status : Status) : Submitted :=
      { layers := ["5"], custom := .standard
        backend := ⟨fun _ _ => ⟨1, .ok (.ofStatus status)⟩, fun _ _ _ => ⟨0, .error (.internal "")⟩⟩
        request := {
          operation := GatewayAction.get.operation, tenant := some "t", device := some device,
          correlation := some device } }
    ((pooled "c" [lookup "a" 200, lookup "b" 404]).sight (Tracing.forHeaders .silent []) 0
      [.poll 1, .poll 0, .drop 1, .poll 0]).outcomes =
      [.pending, .finished (.ok { status := 200, correlation := some "a" })] := by rfl

end DeviceMessaging
