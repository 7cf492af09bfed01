import DeviceMessaging.Proofs.DeviceConnection.SpanLife
import DeviceMessaging.Proofs.Pool.Sequel

/-!
# `Proofs.DeviceConnection.Outcomes` — logs, span and result tell the same story

The outcome of a request shows in three places: the result, the span of the request, and one event of every
logging layer that the request went through. Each place is filled in on its own; whoever polls and drops the
job, they agree, and a job that is dropped leaves no event.

## Contents
- `balanced_dispatch`: the job of a dispatched request closes its spans.
- `Journal.outcomeEvents`: the events of the layers.
- `Tells`, with `tells_outcomeEvent`: what such an event says of a request and its reply.
- `outcomeEvents_bare`, `bare_of_result`: the journal without layers.
- `AgreesWithSpan`, `SameStory`, with `SameStory.of_unanswered` and `SameStory.of_answered`.
- `logs_span_and_result_agree`.
-/

namespace DeviceMessaging

variable (tracing : Tracing) (component : String) (backend : Backend) (custom : Operations)

/-! ## Jobs that close their spans -/

theorem balanced_await {α : Type} (a : Answer α) : a.await.Balanced 0 := by
  show ((Job.pause a.delay).bind fun _ => .done a.outcome).Balanced (0 + 0)
  refine Job.Balanced.bind ?_ fun _ => rfl
  exact Job.Balanced.delayed (t := .done ()) rfl a.delay

theorem balanced_consultBackend (action : GatewayAction) (r : Request) :
    (consultBackend backend action r).Balanced 0 := by
  by_cases h : missingFields action r = []
  · rw [consultBackend_of_complete backend h]
    show ((backend.answer action r).await.bind fun a => _).Balanced (0 + 0)
    exact (balanced_await _).bind fun _ => rfl
  · rw [consultBackend_of_missing backend h]
    rfl

theorem balanced_settle (reply : Reply) : (settle reply).Balanced 1 := by
  cases reply <;> exact ⟨0, rfl, rfl⟩

theorem balanced_process (r : Request) : (custom.process r).Balanced 0 := by
  rw [Operations.process]
  cases custom.selected r.operation with
  | none => rfl
  | some selected => exact balanced_await (selected.2 r)

/-- **The job of a dispatched request** closes the span that it opens. -/
theorem balanced_dispatch (r : Request) :
    ((gatewayApi component backend).dispatch custom r).Balanced 0 := by
  cases h : GatewayAction.ofOperation? r.operation with
  | some action =>
      rw [dispatch_of_known component backend custom h]
      show ((consultBackend backend action r).bind settle).Balanced (0 + 1)
      exact (balanced_consultBackend backend action r).bind balanced_settle
  | none =>
      have hresolve : (gatewayApi component backend).resolve r.operation = none := h
      rw [Api.dispatch, hresolve]
      exact balanced_process custom r

/-! ## The events of the layers -/

namespace Journal

/-- The event that an entry tells of, if a logging layer wrote it. -/
def outcomeEvent? : Entry → Option Event
  | .event e _ => if e.origin = .logging then some e else none
  | _ => none

/-- The events of the logging layers, oldest first. -/
def outcomeEvents (j : Journal) : List Event := j.filterMap outcomeEvent?

theorem outcomeEvents_append (a b : Journal) :
    outcomeEvents (a ++ b) = outcomeEvents a ++ outcomeEvents b :=
  List.filterMap_append

theorem outcomeEvents_closings (held : List OpenSpan) : outcomeEvents (closings held) = [] := by
  refine List.filterMap_eq_nil_iff.mpr fun e he => ?_
  obtain ⟨s, -, rfl⟩ := List.mem_map.mp he
  rfl

end Journal

theorem origin_outcomeEvent (elapsed operation : String) (reply : Reply) :
    (outcomeEvent elapsed operation reply).origin = .logging := by
  cases reply with
  | ok response => rfl
  | error e => by_cases h : e.isClientError <;> simp [outcomeEvent, h]

/-- Every layer writes one event. -/
theorem outcomeEvents_logEntries (elapsed : List String) (operation : String) (reply : Reply)
    (scope : List Nat) :
    Journal.outcomeEvents (Service.logEntries elapsed operation reply scope) =
      elapsed.reverse.map fun e => outcomeEvent e operation reply := by
  unfold Journal.outcomeEvents Service.logEntries
  rw [List.filterMap_map, ← List.filterMap_eq_map]
  refine congrArg (List.filterMap · _) (funext fun e => ?_)
  exact if_pos (origin_outcomeEvent e operation reply)

/-- What an event says of a request and its reply. -/
structure Tells (r : Request) (reply : Reply) (e : Event) : Prop where
  operation : e.fields.lookup "operation" = some r.operation
  /-- The status is that of the response or that of the error. -/
  status : e.fields.lookup "status" = some (Text.decimal (replyStatus reply).toNat)
  /-- A response is no failure whatever its status; an error is the caller's or that of the program. -/
  level : e.level = match reply with
    | .ok _ => .info
    | .error error => if 400 ≤ error.status.toNat ∧ error.status.toNat < 500 then .warn else .error
  error : e.fields.lookup "error" = match reply with
    | .ok _ => none
    | .error error => some error.message

theorem isClientError_iff (e : Error) :
    e.isClientError = true ↔ 400 ≤ e.status.toNat ∧ e.status.toNat < 500 := by
  unfold Error.isClientError Status.isClientError
  rw [Bool.and_eq_true, decide_eq_true_iff, decide_eq_true_iff, UInt16.le_iff_toNat_le,
    UInt16.lt_iff_toNat_lt]
  rfl

theorem tells_outcomeEvent (elapsed : String) (r : Request) (reply : Reply) :
    Tells r reply (outcomeEvent elapsed r.operation reply) := by
  cases reply with
  | ok response => exact ⟨rfl, rfl, rfl, rfl⟩
  | error e =>
      have hiff := isClientError_iff e
      by_cases h : e.isClientError = true
      · simp only [outcomeEvent, if_pos h]
        exact ⟨rfl, rfl, (if_pos (hiff.mp h)).symm, rfl⟩
      · simp only [outcomeEvent, if_neg h]
        exact ⟨rfl, rfl, (if_neg fun hclass => h (hiff.mpr hclass)).symm, rfl⟩

/-- The error is told in words, with its status. -/
example : (outcomeEvent "0" "operation" (.error (.ofStatus 404))).fields.lookup "error" =
    some "Service invocation failed with status 404: Not Found" := by
  decide

theorem level_eq_info_iff {r : Request} {reply : Reply} {e : Event} (h : Tells r reply e) :
    e.level = .info ↔ ∃ response, reply = .ok response := by
  rw [h.level]
  cases reply with
  | ok response => exact iff_of_true rfl ⟨response, rfl⟩
  | error error =>
      refine iff_of_false ?_ fun ⟨response, hresponse⟩ => by cases hresponse
      show (if _ then Level.warn else Level.error) ≠ Level.info
      split <;> exact fun hlevel => by cases hlevel

/-! ## The journal without layers -/

section Bare

variable {tracing component backend custom} {r : Request} {schedule : List Pool.Move}

theorem outcomeEvents_requestFront (action : GatewayAction) (next : Nat) :
    Journal.outcomeEvents (requestFront tracing component backend action r next) = [] := by
  unfold requestFront consultEntries
  split <;> cases action <;> rfl

theorem outcomeEvents_outcomeEntries (number : Nat) (scope : List Nat) (reply : Reply) :
    Journal.outcomeEvents (outcomeEntries number scope reply) = [] := by
  cases reply <;> rfl

theorem outcomeEvents_custom (scope : List Nat) : Journal.outcomeEvents (custom.entries r scope) = [] := by
  rw [Operations.entries]
  cases custom.selected r.operation <;> rfl

/-- The dispatcher itself writes no outcome event. -/
theorem outcomeEvents_bare :
    Journal.outcomeEvents ((Pool.ofJobs [(gatewayApi component backend).dispatch custom r] []).after
      tracing schedule).journal = [] := by
  cases hr : GatewayAction.ofOperation? r.operation with
  | none =>
      have honce := waitsOnce_custom tracing component backend custom hr 0
      rcases Pool.fate_ofJobs honce schedule with ⟨-, hjournal⟩ | ⟨-, hfate⟩
      · rw [hjournal]
        rfl
      · have hjournal : ((Pool.ofJobs [(gatewayApi component backend).dispatch custom r] []).after
            tracing schedule).journal = custom.entries r [] := by
          cases hfate with
          | waiting written alive => exact written
          | dropped written gone unanswered => exact written.trans (List.append_nil _)
          | ended written answered => exact written.trans (List.append_nil _)
        rw [hjournal, outcomeEvents_custom]
  | some action =>
      have honce := waitsOnce_known tracing component backend custom hr 0
      rcases Pool.fate_ofJobs honce schedule with ⟨-, hjournal⟩ | ⟨-, hfate⟩
      · rw [hjournal]
        rfl
      · cases hfate with
        | waiting written alive => rw [written, outcomeEvents_requestFront]
        | dropped written gone unanswered =>
            rw [written, Journal.outcomeEvents_append, outcomeEvents_requestFront,
              Journal.outcomeEvents_closings]
            rfl
        | ended written answered =>
            rw [written, Journal.outcomeEvents_append, Journal.outcomeEvents_append,
              outcomeEvents_requestFront, outcomeEvents_outcomeEntries]
            rfl

/-- What the dispatcher has written about a request of the API when it has answered it. -/
theorem bare_of_result {action : GatewayAction} (hr : GatewayAction.ofOperation? r.operation = some action)
    {reply : Reply}
    (h : .finished reply ∈
      (Pool.ofJobs [(gatewayApi component backend).dispatch custom r] []).outcomes tracing schedule) :
    ((Pool.ofJobs [(gatewayApi component backend).dispatch custom r] []).after tracing schedule).journal =
      requestFront tracing component backend action r 0 ++ outcomeEntries 0 [0] reply ++ [.closed 0] := by
  have honce := waitsOnce_known tracing component backend custom hr 0
  rcases Pool.fate_ofJobs honce schedule with ⟨hunpolled, -⟩ | ⟨-, hfate⟩
  · cases (List.any_eq_false.mp hunpolled _ h) rfl
  · cases hfate with
    | waiting written alive => cases alive _ h
    | dropped written gone unanswered => exact absurd h (unanswered reply)
    | ended written answered =>
        obtain rfl := (answered reply).mp h
        rw [written, List.append_assoc]

end Bare

/-! ## The three places -/

/-- The span with number `n` and the events of the layers agree. -/
structure AgreesWithSpan (n : Nat) (j : Journal) : Prop where
  /-- The span closes before the first event, and no event lies in it. -/
  order : ∃ before after, j = before ++ .closed n :: after ∧ Journal.outcomeEvents before = [] ∧
    ∀ e ∈ after, n ∉ e.spans
  /-- The span has the status of every event, and counts as success exactly when an event does. -/
  fields : ∃ span, j.span? n = some span ∧ ∀ e ∈ Journal.outcomeEvents j,
    span.fields.lookup "http.status_code" = e.fields.lookup "status" ∧
      (span.fields.lookup "otel.status_code" = some "OK" ↔ e.level = .info)

/-- Logs, span and result of a request agree, given the outcomes of the moves by which its job was polled and
dropped behind `layers`. -/
structure SameStory (layers : List String) (r : Request) (outcomes : List (Pool.Outcome Reply))
    (j : Journal) : Prop where
  /-- When the request is answered every layer has written one event, about the request and its reply. -/
  told : ∀ reply, .finished reply ∈ outcomes →
    (Journal.outcomeEvents j).length = layers.length ∧ ∀ e ∈ Journal.outcomeEvents j, Tells r reply e
  /-- If it is a request of the API, its span says the same, and said it before. -/
  agreed : ∀ reply, .finished reply ∈ outcomes → (GatewayAction.ofOperation? r.operation).isSome →
    ∃ n, Journal.requestSpans j = [n] ∧ AgreesWithSpan n j
  /-- A request whose job was dropped, or which is not answered yet, leaves no event. -/
  untold : (.dropped ∈ outcomes ∨ ∀ reply, .finished reply ∉ outcomes) → Journal.outcomeEvents j = []

section Story

/-- When a request span opens, nothing is said of the outcome. -/
theorem lookup_gatewaySpan (action : GatewayAction) (r : Request) :
    (gatewaySpan component action r).fields.lookup "http.status_code" = none ∧
      (gatewaySpan component action r).fields.lookup "otel.status_code" = none := by
  have hfield := lookup_requestSpan component action.spanName r.headers (gatewayTags action r)
  exact ⟨hfield "http.status_code", hfield "otel.status_code"⟩

variable {tracing component backend custom}

/-- What a span takes from the outcome of its request. -/
theorem lookup_outcomeFields (fields : Fields) (reply : Reply)
    (hfields : fields.lookup "http.status_code" = none ∧ fields.lookup "otel.status_code" = none) :
    (fields ++ outcomeFields reply).lookup "http.status_code" =
        some (Text.decimal (replyStatus reply).toNat) ∧
      ((fields ++ outcomeFields reply).lookup "otel.status_code" = some "OK" ↔
        ∃ response, reply = .ok response) := by
  rw [List.lookup_append, List.lookup_append, hfields.1, hfields.2, Option.none_or, Option.none_or]
  cases reply with
  | ok response => exact ⟨rfl, iff_of_true rfl ⟨response, rfl⟩⟩
  | error e =>
      refine ⟨rfl, iff_of_false ?_ fun ⟨response, hresponse⟩ => by cases hresponse⟩
      show some "ERROR" ≠ some "OK"
      decide

/-- The layers leave the span as the request left it, and say what it says. -/
theorem agreesWithSpan_logEntries (layers : List String) (action : GatewayAction) (r : Request)
    (reply : Reply) :
    let j := requestFront tracing component backend action r 0 ++ outcomeEntries 0 [0] reply ++
      [.closed 0] ++ Service.logEntries layers r.operation reply []
    Journal.requestSpans j = [0] ∧ AgreesWithSpan 0 j := by
  intro j
  have hsilent : ∀ e ∈ Service.logEntries layers r.operation reply [], (0 : Nat) ∉ e.spans := by
    intro e he
    rw [Service.spans_of_mem_logEntries he]
    exact List.not_mem_nil
  obtain ⟨-, hspans⟩ := views_requestFront tracing component backend action r 0 (some reply) true
  obtain ⟨span, hspan, hspec, hnoted⟩ :=
    span?_requestFront tracing component backend action r 0 (some reply) true
  refine ⟨?spans, ?order, span, ?span, ?fields⟩
  case spans =>
    have hlogs : Journal.requestSpans (Service.logEntries layers r.operation reply []) = [] := by
      refine List.filterMap_eq_nil_iff.mpr fun e he => ?_
      obtain ⟨t, -, rfl⟩ := List.mem_map.mp he
      rfl
    show Journal.requestSpans (_ ++ _) = [0]
    rw [Journal.requestSpans_append, hlogs, List.append_nil]
    exact hspans
  case order =>
    refine ⟨_, Service.logEntries layers r.operation reply [], List.append_assoc _ _ _, ?_, hsilent⟩
    rw [Journal.outcomeEvents_append, outcomeEvents_requestFront, outcomeEvents_outcomeEntries]
    rfl
  case span =>
    show Journal.span? (_ ++ _) 0 = some span
    rw [← Journal.span?_about, Journal.about_append, Journal.about_eq_nil hsilent, List.append_nil,
      Journal.span?_about]
    exact hspan
  case fields =>
    intro e he
    have hevents : Journal.outcomeEvents j =
        layers.reverse.map fun t => outcomeEvent t r.operation reply := by
      show Journal.outcomeEvents (_ ++ _ ++ _ ++ _) = _
      rw [Journal.outcomeEvents_append, Journal.outcomeEvents_append, Journal.outcomeEvents_append,
        outcomeEvents_requestFront, outcomeEvents_outcomeEntries, outcomeEvents_logEntries]
      rfl
    rw [hevents] at he
    obtain ⟨t, -, rfl⟩ := List.mem_map.mp he
    have htells := tells_outcomeEvent t r reply
    have hfields : span.fields = (gatewaySpan component action r).fields ++ outcomeFields reply := by
      rw [SpanRecord.fields, hspec, hnoted]
      rfl
    obtain ⟨hstatus, hcode⟩ := lookup_outcomeFields _ reply (lookup_gatewaySpan component action r)
    rw [hfields, hstatus, htells.status, hcode]
    exact ⟨rfl, (level_eq_info_iff htells).symm⟩

/-- As long as nothing is answered, there is nothing to tell. -/
theorem SameStory.of_unanswered {layers : List String} {r : Request} {outcomes : List (Pool.Outcome Reply)}
    {j : Journal} (hnone : Pool.results outcomes = []) (hj : Journal.outcomeEvents j = []) :
    SameStory layers r outcomes j := by
  have hunfinished : ∀ reply, .finished reply ∉ outcomes := by
    intro reply hreply
    rw [← Pool.mem_results, hnone] at hreply
    exact List.not_mem_nil hreply
  exact ⟨fun reply h => absurd h (hunfinished reply), fun reply h => absurd h (hunfinished reply),
    fun _ => hj⟩

/-- When the request is answered, the layers tell of it behind all that the dispatcher has written. -/
theorem SameStory.of_answered (layers : List String) {r : Request} {outcomes : List (Pool.Outcome Reply)}
    {j : Journal} {reply : Reply} (hone : Pool.results outcomes = [reply]) (hkept : .dropped ∉ outcomes)
    (hbare : Journal.outcomeEvents j = [])
    (hknown : ∀ action, GatewayAction.ofOperation? r.operation = some action →
      j = requestFront tracing component backend action r 0 ++ outcomeEntries 0 [0] reply ++ [.closed 0]) :
    SameStory layers r outcomes (j ++ Service.logEntries layers r.operation reply []) := by
  have hfinished : .finished reply ∈ outcomes := by
    rw [← Pool.mem_results, hone]
    exact List.mem_singleton_self reply
  have honly : ∀ {reply'}, .finished reply' ∈ outcomes → reply' = reply := by
    intro reply' h
    rw [← Pool.mem_results, hone] at h
    exact List.mem_singleton.mp h
  refine ⟨?told, ?agreed, ?untold⟩
  case told =>
    intro reply' h
    obtain rfl := honly h
    rw [Journal.outcomeEvents_append, hbare, outcomeEvents_logEntries, List.nil_append]
    refine ⟨by rw [List.length_map, List.length_reverse], fun e he => ?_⟩
    obtain ⟨t, -, rfl⟩ := List.mem_map.mp he
    exact tells_outcomeEvent t r reply'
  case agreed =>
    intro reply' h hoperation
    obtain rfl := honly h
    obtain ⟨action, haction⟩ := Option.isSome_iff_exists.mp hoperation
    rw [hknown action haction]
    exact ⟨0, agreesWithSpan_logEntries layers action r reply'⟩
  case untold =>
    rintro (hdropped | hunfinished)
    · exact absurd hdropped hkept
    · exact absurd hfinished (hunfinished reply)

end Story

/-- **Logs, span and result tell the same story**, behind any layers and whoever polls and drops the job: the
layers change nothing about what comes of the moves, and what they write agrees with it. -/
theorem logs_span_and_result_agree (layers : List String) (r : Request) (schedule : List Pool.Move) :
    let bare := Pool.ofJobs [((gatewayApi component backend).dispatcher.call custom r).1.lazily] []
    let pool := Pool.ofJobs [((gatewayService component backend layers).call custom r).1.lazily] []
    pool.outcomes tracing schedule = bare.outcomes tracing schedule ∧
      SameStory layers r (pool.outcomes tracing schedule) (pool.after tracing schedule).journal := by
  intro bare pool
  have hsequel : Pool.HasSequel (Service.tellOutcome layers r.operation) bare pool
      ((gatewayApi component backend).dispatch custom r).start := by
    refine ⟨rfl, ?_, rfl, balanced_dispatch component backend custom r⟩
    show [some (Job.start _)] = _
    rw [gatewayService, Service.lazily_layered]
    rfl
  obtain ⟨houtcomes, hjournal⟩ := hsequel.run
    (fun reply next => Service.advance_tellOutcome tracing layers r.operation reply next) schedule
  have hbare : Journal.outcomeEvents (bare.after tracing schedule).journal = [] := outcomeEvents_bare
  refine ⟨houtcomes, ?_⟩
  rw [houtcomes, hjournal]
  rcases Pool.endsOnce_of_single tracing hsequel.slots schedule with hnone | ⟨reply, hone, hkept⟩
  · rw [hnone, List.flatMap_nil, List.append_nil]
    exact .of_unanswered hnone hbare
  · have hfinished : .finished reply ∈ bare.outcomes tracing schedule := by
      rw [← Pool.mem_results, hone]
      exact List.mem_singleton_self reply
    rw [hone, List.flatMap_singleton]
    exact .of_answered layers hone hkept hbare fun action haction => bare_of_result haction hfinished

end DeviceMessaging
