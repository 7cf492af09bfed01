import DeviceMessaging.Proofs.DeviceConnection.Dispatch

/-!
# `Proofs.DeviceConnection.Validation` — what passes the checks, and what becomes of it

Each action has its mandatory ids. A request that lacks one of them, or has an empty one, is refused with
the names of all that are missing, and neither the backend nor a custom handler hears of it. Any other
request is passed on by one call with its own ids, and its reply mirrors what the backend answers.

## Contents
- `IsMissing`, `missingNames`, with `missingFields_eq_missingNames`: what is missing from a request.
- `mirrored`, with `gatewayReply_of_complete`: the reply that says what the backend says.
- `Journal.requestSpans`, `Journal.errors`: the request spans and the reported errors of a journal.
- `complete_oneshot_dispatcher`: the dispatcher run to the end.
- `Refused`, `PassedOn` and `validation_gates_backend`.
-/

namespace DeviceMessaging

/-! ## Missing ids -/

/-- The id is absent or empty. -/
def IsMissing (id : Option String) : Prop := id = none ∨ id = some ""

instance (id : Option String) : Decidable (IsMissing id) := by unfold IsMissing; infer_instance

/-- The names of the ids that are missing, in their order. -/
def missingNames (ids : List (String × Option String)) : List String :=
  (ids.filter fun id => IsMissing id.2).map Prod.fst

theorem isNone_presentId_iff {id : Option String} : (presentId id).isNone = true ↔ IsMissing id := by
  cases id with
  | none => simp [presentId, IsMissing]
  | some s => by_cases h : s = "" <;> simp [presentId, IsMissing, h]

/-- The checks find the mandatory ids that are missing, and no others. -/
theorem missingFields_eq_missingNames (action : GatewayAction) (r : Request) :
    missingFields action r = missingNames (mandatoryFields action r) := by
  unfold missingFields missingNames
  refine congrArg (List.map Prod.fst) (List.filter_congr fun f _ => ?_)
  rw [Bool.eq_iff_iff, isNone_presentId_iff, decide_eq_true_iff]

theorem missingNames_ne_nil_iff {ids : List (String × Option String)} :
    missingNames ids ≠ [] ↔ ∃ id ∈ ids, IsMissing id.2 := by
  rw [missingNames, ne_eq, List.map_eq_nil_iff, List.filter_eq_nil_iff]
  simp

/-- Nothing is missing from a request whose mandatory ids are all there. -/
theorem missingFields_eq_nil_of_present {action : GatewayAction} {r : Request}
    (h : ∀ id ∈ mandatoryFields action r, ∃ s, id.2 = some s ∧ s ≠ "") :
    missingFields action r = [] := by
  rw [missingFields_eq_nil_iff]
  intro id hid
  obtain ⟨s, hs, hne⟩ := h id hid
  rw [presentId_eq_some_iff.mpr ⟨hs, hne⟩]
  rfl

/-! ## Mirrored outcomes -/

/-- The reply that says what the backend says, with the token of the request. -/
def mirrored (r : Request) : Except Error GatewayResult → Reply
  | .ok result =>
    .ok {
      status := result.status, payload := result.payload, cacheDirective := result.cacheDirective
      correlation := r.correlation }
  | .error e => .error e

theorem gatewayReply_of_complete {backend : Backend} {action : GatewayAction} {r : Request}
    (h : missingFields action r = []) :
    gatewayReply backend action r = mirrored r (backend.answer action r).outcome := by
  rw [gatewayReply, if_pos h]
  cases (backend.answer action r).outcome <;> rfl

/-! ## Request spans and errors of a journal -/

namespace Journal

/-- The number of the request span that an entry opens. -/
def requestSpan? : Entry → Option Nat
  | .opened span spec _ => if spec.name = "service_request" then some span.number else none
  | _ => none

/-- The numbers of the request spans that were opened. -/
def requestSpans (j : Journal) : List Nat := j.filterMap requestSpan?

theorem requestSpans_append (a b : Journal) :
    requestSpans (a ++ b) = requestSpans a ++ requestSpans b := List.filterMap_append

/-- An event of level `ERROR`, with the spans that were open then. -/
def error? : Entry → Option (Event × List Nat)
  | .event e scope => if e.level = .error then some (e, scope) else none
  | _ => none

/-- The errors that were reported, each with the spans that were open then. -/
def errors (j : Journal) : List (Event × List Nat) := j.filterMap error?

theorem errors_append (a b : Journal) : errors (a ++ b) = errors a ++ errors b := List.filterMap_append

end Journal

variable (tracing : Tracing) (ambient : List OpenSpan) (component : String) (backend : Backend)
  (custom : Operations)

/-- The outcome of a request is no error of its own, and opens no span. -/
theorem views_outcomeEntries (number : Nat) (scope : List Nat) (reply : Reply) :
    Journal.requestSpans (outcomeEntries number scope reply) = [] ∧
      Journal.errors (outcomeEntries number scope reply) = [] := by
  cases reply <;> exact ⟨rfl, rfl⟩

theorem views_consultEntries (action : GatewayAction) (r : Request) (scope : List Nat) :
    Journal.requestSpans (consultEntries action r scope) = [] ∧
      Journal.errors (consultEntries action r scope) =
        if missingFields action r = [] then [] else [(missingEvent action, scope)] := by
  by_cases h : missingFields action r = []
  · rw [consultEntries, if_pos h, if_pos h]
    cases action <;> exact ⟨rfl, rfl⟩
  · rw [consultEntries, if_neg h, if_neg h]
    exact ⟨rfl, rfl⟩

/-- A request to the API opens one request span, and reports an error in it if an id is missing. -/
theorem views_dispatchEntries {action : GatewayAction} {r : Request}
    (h : GatewayAction.ofOperation? r.operation = some action) (next : Nat) :
    let entries := dispatchEntries tracing ambient component backend custom r [] next
    Journal.requestSpans entries = [next] ∧
      Journal.errors entries =
        if missingFields action r = [] then []
        else [(missingEvent action, next :: numbers ambient)] := by
  intro entries
  let scope := next :: numbers ambient
  let rest := consultEntries action r scope ++ outcomeEntries next scope (gatewayReply backend action r) ++
    [.closed next]
  obtain ⟨hspans, herrors⟩ := views_consultEntries action r scope
  obtain ⟨hspans', herrors'⟩ := views_outcomeEntries next scope (gatewayReply backend action r)
  have hentries : entries =
      .event ((gatewayApi component backend).dispatchEvent action) (numbers ambient) ::
        .opened (Job.spanAt tracing ambient [] next (gatewaySpan component action r))
          (gatewaySpan component action r) (tracing.propagator.parent? r.headers) :: rest := by
    simp only [entries, dispatchEntries, h]
    rfl
  -- the span is opened in front of all that may be an error
  rw [hentries]
  constructor
  · show next :: Journal.requestSpans rest = [next]
    rw [Journal.requestSpans_append, Journal.requestSpans_append, hspans, hspans']
    rfl
  · show Journal.errors rest = _
    rw [Journal.errors_append, Journal.errors_append, herrors, herrors', List.append_nil]
    exact List.append_nil _

/-! ## Validation -/

/-- **The dispatcher run to its end** does what its course says. -/
theorem complete_oneshot_dispatcher (r : Request) (next : Nat) :
    ((gatewayApi component backend).dispatcher.oneshot custom r).complete tracing ambient [] next =
      (dispatchEntries tracing ambient component backend custom r [] next,
        dispatchReply backend custom r) := by
  obtain ⟨after, hcourse⟩ := course_dispatch tracing ambient component backend custom r [] next
  have honeshot : (gatewayApi component backend).dispatcher.oneshot custom r =
      (gatewayApi component backend).dispatch custom r := Service.oneshot_of_ready rfl r
  rw [honeshot, Job.complete_eq_course, hcourse]
  exact congrArg (·, dispatchReply backend custom r) (List.append_nil _)

/-- The request is refused because the ids `names` are missing: nobody is called, one error is reported
in the request span, and the reply names what is missing. -/
structure Refused (names : List String) (served : List Entry × Reply) : Prop where
  some_name : names ≠ []
  no_call : Journal.calls served.1 = []
  reported : ∃ event number outer, Journal.requestSpans served.1 = [number] ∧
    Journal.errors served.1 = [(event, number :: outer)]
  reply : served.2 = .error (.missingRequiredField (", ".intercalate names))
  status : replyStatus served.2 = 400

/-- The request is passed on by one call, and the reply is `reply`. -/
structure PassedOn (call : Call) (reply : Reply) (served : List Entry × Reply) : Prop where
  one_call : Journal.calls served.1 = [call]
  no_error : Journal.errors served.1 = []
  reply : served.2 = reply

section Served

variable {action : GatewayAction} {r : Request}
  (hr : GatewayAction.ofOperation? r.operation = some action) (next : Nat)
include hr

theorem refused_of_missing (h : ∃ id ∈ mandatoryFields action r, IsMissing id.2) :
    Refused (missingNames (mandatoryFields action r))
      (((gatewayApi component backend).dispatcher.oneshot custom r).complete tracing ambient [] next) := by
  have hnames := missingNames_ne_nil_iff.mpr h
  have hmissing : missingFields action r ≠ [] := by rwa [missingFields_eq_missingNames]
  obtain ⟨hspans, herrors⟩ :=
    views_dispatchEntries tracing ambient component backend custom hr next
  rw [if_neg hmissing] at herrors
  have hreply : dispatchReply backend custom r =
      .error (.missingRequiredField (", ".intercalate (missingNames (mandatoryFields action r)))) := by
    rw [dispatchReply, hr]
    show gatewayReply backend action r = _
    rw [gatewayReply, if_neg hmissing, missingFields_eq_missingNames]
    rfl
  rw [complete_oneshot_dispatcher]
  refine ⟨hnames, ?_, ⟨_, next, _, hspans, herrors⟩, hreply, ?_⟩
  · show Journal.calls (dispatchEntries tracing ambient component backend custom r [] next) = []
    rw [dispatchEntries, hr]
    simp only [Journal.calls_event, calls_gatewayEntries, if_neg hmissing]
  · rw [hreply]
    rfl

theorem passedOn_of_present (h : ∀ id ∈ mandatoryFields action r, ∃ s, id.2 = some s ∧ s ≠ "") :
    PassedOn (gatewayCall action r) (mirrored r (backend.answer action r).outcome)
      (((gatewayApi component backend).dispatcher.oneshot custom r).complete tracing ambient [] next) := by
  have hcomplete := missingFields_eq_nil_of_present h
  obtain ⟨-, herrors⟩ := views_dispatchEntries tracing ambient component backend custom hr next
  rw [if_pos hcomplete] at herrors
  rw [complete_oneshot_dispatcher]
  refine ⟨?_, herrors, ?_⟩
  · show Journal.calls (dispatchEntries tracing ambient component backend custom r [] next) = _
    rw [dispatchEntries, hr]
    simp only [Journal.calls_event, calls_gatewayEntries, if_pos hcomplete]
  · show dispatchReply backend custom r = _
    rw [dispatchReply, hr]
    exact gatewayReply_of_complete hcomplete

end Served

/-- **Validation gates the backend, and the reply mirrors its outcome**, whatever custom operations there
are and however long the backend takes. -/
theorem validation_gates_backend (r : Request) (next : Nat) :
    let served :=
      ((gatewayApi component backend).dispatcher.oneshot custom r).complete tracing ambient [] next
    let askIds := [("tenant_id", r.tenant), ("device_id", r.device)]
    let tellIds := [("tenant_id", r.tenant), ("device_id", r.device), ("gateway_id", r.gateway)]
    (r.operation = "get-last-known-gateway" →
      ((∃ id ∈ askIds, IsMissing id.2) → Refused (missingNames askIds) served) ∧
      ∀ t d, r.tenant = some t → r.device = some d → t ≠ "" → d ≠ "" →
        PassedOn (.getGateway t d) (mirrored r (backend.getGateway t d).outcome) served) ∧
    (r.operation = "set-last-known-gateway" →
      ((∃ id ∈ tellIds, IsMissing id.2) → Refused (missingNames tellIds) served) ∧
      ∀ t d g, r.tenant = some t → r.device = some d → r.gateway = some g → t ≠ "" → d ≠ "" → g ≠ "" →
        PassedOn (.setGateway t d g) (mirrored r (backend.setGateway t d g).outcome) served) := by
  intro served askIds tellIds
  constructor
  · intro hr
    have hask : GatewayAction.ofOperation? r.operation = some .get :=
      GatewayAction.ofOperation?_eq_some_iff.mpr hr
    refine ⟨refused_of_missing tracing ambient component backend custom hask next, ?_⟩
    intro t d ht hd htne hdne
    have hpresent : ∀ id ∈ mandatoryFields .get r, ∃ s, id.2 = some s ∧ s ≠ "" := by
      simp [mandatoryFields, ht, hd, htne, hdne]
    have hpassed :=
      passedOn_of_present tracing ambient component backend custom hask next hpresent
    simpa only [gatewayCall, Backend.answer, ht, hd, Option.getD_some] using hpassed
  · intro hr
    have htell : GatewayAction.ofOperation? r.operation = some .set :=
      GatewayAction.ofOperation?_eq_some_iff.mpr hr
    refine ⟨refused_of_missing tracing ambient component backend custom htell next, ?_⟩
    intro t d g ht hd hg htne hdne hgne
    have hpresent : ∀ id ∈ mandatoryFields .set r, ∃ s, id.2 = some s ∧ s ≠ "" := by
      simp [mandatoryFields, ht, hd, hg, htne, hdne, hgne]
    have hpassed :=
      passedOn_of_present tracing ambient component backend custom htell next hpresent
    simpa only [gatewayCall, Backend.answer, ht, hd, hg, Option.getD_some] using hpassed

/-- A handler that is registered for an operation of the API gets no request of it; a request that lacks
two ids is told of both, and a backend that takes three polls more is asked once. -/
theorem two_missing_and_one_passed_on :
    let tracing := Tracing.forHeaders .silent []
    let backend : Backend :=
      ⟨fun _ _ => ⟨3, .ok (.ofPayload .null)⟩, fun _ _ _ => ⟨0, .error (.internal "down")⟩⟩
    let custom := Operations.standard.withHandler "set-last-known-gateway" fun r => ⟨0, .ok (r.respond 200)⟩
    let dispatcher := (gatewayApi "component" backend).dispatcher
    let tell : Request := {
      operation := "set-last-known-gateway", device := some "", gateway := some "gateway" }
    let ask : Request := {
      operation := "get-last-known-gateway", tenant := some "tenant", device := some "device"
      correlation := some "token" }
    Refused ["tenant_id", "device_id"] ((dispatcher.oneshot custom tell).complete tracing [] [] 0) ∧
      PassedOn (.getGateway "tenant" "device")
        (.ok { status := 200, payload := some .null, correlation := some "token" })
        ((dispatcher.oneshot custom ask).complete tracing [] [] 0) := by
  intro tracing backend custom dispatcher tell ask
  have htell := (validation_gates_backend tracing [] "component" backend custom tell 0).2 rfl
  have hask := (validation_gates_backend tracing [] "component" backend custom ask 0).1 rfl
  constructor
  · exact htell.1 ⟨("tenant_id", none), List.mem_cons_self, .inl rfl⟩
  · exact hask.2 "tenant" "device" rfl rfl (by decide) (by decide)

end DeviceMessaging
