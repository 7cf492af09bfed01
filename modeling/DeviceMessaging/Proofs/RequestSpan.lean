import DeviceMessaging.Proofs.Job.Course
import DeviceMessaging.RequestSpan

/-!
# `Proofs.RequestSpan` — the course of a request in its span

## Contents
- `lookup_requestSpan`: what a request span says under every name when it opens.
- `outcomeEntries`, `course_noteOutcome`: what the outcome of a request leaves behind.
- `course_inRequestSpan`: a request span opens, takes what the body does and the outcome, and closes.
-/

namespace DeviceMessaging

/-! ## The fields of a request span -/

/-- The tags that are there are found, and no others. -/
theorem SpanTags.lookup_present (t : SpanTags) (name : String) :
    t.present.lookup name =
      if name = "tenant_id" then t.tenant else if name = "device_id" then t.device
      else if name = "gateway_id" then t.gateway else none := by
  obtain ⟨tenant, device, gateway⟩ := t
  -- the names are different, so a tag that is absent is not found in another's place
  cases tenant <;> cases device <;> cases gateway <;>
    simp only [present, List.filterMap, Option.map, lookup_cons_eq_ite, List.lookup_nil] <;> grind

/-- **What a request span says** under every name when it opens. -/
theorem lookup_requestSpan (component spanName : String) (headers : Option Headers) (tags : SpanTags)
    (name : String) :
    (requestSpan component spanName headers tags).fields.lookup name =
      if name = "otel.name" then some spanName else if name = "otel.kind" then some "server"
      else if name = "component" then some component else if name = "tenant_id" then tags.tenant
      else if name = "device_id" then tags.device else if name = "gateway_id" then tags.gateway
      else none := by
  simp only [requestSpan, List.cons_append, List.nil_append, lookup_cons_eq_ite, SpanTags.lookup_present]

/-! ## The course of a request -/

variable (tracing : Tracing) (ambient : List OpenSpan)

/-- The entries for the outcome of a request whose span has the number `number`. -/
def outcomeEntries (number : Nat) (scope : List Nat) : Reply → List Entry
  | .ok r =>
    [.recorded number "http.status_code" (Text.decimal r.status.toNat),
      .recorded number "otel.status_code" "OK"]
  | .error e =>
    [.recorded number "http.status_code" (Text.decimal e.status.toNat),
      .recorded number "otel.status_code" "ERROR",
      .recorded number "otel.status_description" e.message,
      .event (failureEvent e) scope]

@[simp] theorem calls_outcomeEntries (number : Nat) (scope : List Nat) (reply : Reply) :
    Journal.calls (outcomeEntries number scope reply) = [] := by
  cases reply <;> rfl

/-- The outcome is recorded on the innermost span. -/
theorem course_noteOutcome (reply : Reply) (span : OpenSpan) (held : List OpenSpan) (next : Nat) :
    (noteOutcome reply).course tracing ambient (span :: held) next =
      (outcomeEntries span.number (numbers (span :: held ++ ambient)) reply,
        ⟨(), span :: held, next⟩) := by
  cases reply <;> rfl

/-- **The course of a request in its span**, when the body leaves the open spans as they are. -/
theorem course_inRequestSpan {spec : SpanSpec} {body : Job Reply} {held : List OpenSpan}
    {next after : Nat} {entries : List Entry} {reply : Reply}
    (hbody : body.course tracing ambient (Job.spanAt tracing ambient held next spec :: held) (next + 1) =
      (entries, ⟨reply, Job.spanAt tracing ambient held next spec :: held, after⟩)) :
    (Job.inRequestSpan spec body).course tracing ambient held next =
      (.opened (Job.spanAt tracing ambient held next spec) spec
          (tracing.parent? (held ++ ambient) spec.parent) ::
          (entries ++ outcomeEntries next (next :: numbers (held ++ ambient)) reply ++ [.closed next]),
        ⟨reply, held, after⟩) := by
  rw [← List.cons_append, Job.inRequestSpan]
  refine Job.course_inSpan tracing ambient ?_
  simp only [Job.bind_eq, Job.pure_eq, Job.course_bind, hbody, course_noteOutcome, Job.course_done]
  simp [numbers]

end DeviceMessaging
