import DeviceMessaging.Proofs.DeviceConnection.Validation
import DeviceMessaging.Proofs.Pool.OneWait

/-!
# `Proofs.DeviceConnection.SpanLife` — the life of a request span

The job of a dispatched request can be polled and dropped at any moment. Whatever is done to it, the span
of the request opens at the first poll and closes once, when the job ends or is dropped; from its opening
it tells of the request, and at the end of the processing it takes the outcome, but not when the job is
dropped before.

## Contents
- `Journal.timesClosed`, with `timesClosed_closing` and `eq_nil_of_closing`: closings in a journal.
- `settle`, `dispatch_of_known`: the job of a request to the API.
- `waitsOnce_known`, `waitsOnce_custom`: the job of a dispatched request waits once.
- `outcomeFields`, `Tagged`: what the span is told.
- `replyEntries`, `requestRecord`, with `span?_requestFront`: the journal of a request to the API.
- `SpanLife` and `request_span_closes_once`.
-/

namespace DeviceMessaging

/-! ## Closings -/

namespace Journal

/-- The entry closes span number `n`. -/
def closes (n : Nat) : Entry → Bool
  | .closed m => m = n
  | _ => false

/-- How often span number `n` is closed. -/
def timesClosed (n : Nat) (j : Journal) : Nat := j.countP (closes n)

/-- The journal closes no span. -/
def ClosesNone (j : Journal) : Prop := ∀ n, .closed n ∉ j

theorem timesClosed_of_closesNone {j : Journal} (h : ClosesNone j) (n : Nat) : timesClosed n j = 0 := by
  refine List.countP_eq_zero.mpr fun e he hcloses => ?_
  cases e with
  | closed m => exact h m he
  | opened span spec parent => cases hcloses
  | recorded m name value => cases hcloses
  | event e scope => cases hcloses
  | called c scope => cases hcloses

/-- The entry that closes span number `n`, if the span closes. -/
def closing (n : Nat) (closes : Bool) : List Entry := if closes then [.closed n] else []

/-- A span that closes at the end of a journal closes once. -/
theorem timesClosed_closing {j : Journal} (h : ClosesNone j) (n : Nat) (closes : Bool) :
    timesClosed n (j ++ closing n closes) = if closes then 1 else 0 := by
  have hend : timesClosed n (closing n closes) = if closes then 1 else 0 := by
    cases closes with
    | false => rfl
    | true => simp [timesClosed, closing, Journal.closes]
  unfold timesClosed at hend ⊢
  rw [List.countP_append, hend, ← timesClosed, timesClosed_of_closesNone h, Nat.zero_add]

/-- Nothing comes behind the closing at the end of a journal. -/
theorem eq_nil_of_closing {j before after : Journal} {m n : Nat} {closes : Bool} (h : ClosesNone j)
    (hj : j ++ closing m closes = before ++ .closed n :: after) : after = [] := by
  -- an entry behind it would leave the closing to the journal that closes nothing
  cases closes with
  | false =>
      have hmem : .closed n ∈ j ++ closing m false := by
        rw [hj]
        exact List.mem_append_right before List.mem_cons_self
      rw [closing, if_neg Bool.false_ne_true, List.append_nil] at hmem
      exact absurd hmem (h n)
  | true =>
      rcases List.eq_nil_or_concat after with hnil | ⟨init, e, rfl⟩
      · exact hnil
      · rw [List.concat_eq_append, ← List.cons_append, ← List.append_assoc] at hj
        have hinit : j = before ++ .closed n :: init := (List.append_inj' hj rfl).1
        have hmem : .closed n ∈ j := by
          rw [hinit]
          exact List.mem_append_right before List.mem_cons_self
        exact absurd hmem (h n)

end Journal

/-! ## The job of a request -/

variable (tracing : Tracing) (component : String) (backend : Backend) (custom : Operations)

/-- Waiting for the backend comes before all that is done with its answer. -/
theorem replyOf_bind {α : Type} (r : Request) (a : Answer GatewayResult) (k : Reply → Job α) :
    (replyOf r a).bind k =
      (k (a.outcome.map fun result => result.toResponse r)).delayed a.delay := by
  simp only [replyOf, Answer.await, Job.pause, Job.bind_eq, Job.pure_eq, Job.bind_delayed]
  rfl

/-- What a request does in its span when the reply is there. -/
def settle (reply : Reply) : Job Reply :=
  ((noteOutcome reply).bind fun _ => .done reply).bind fun reply => .closeSpan (.done reply)

theorem advance_settle (reply : Reply) (span : OpenSpan) (next : Nat) :
    (settle reply).advance tracing [] [span] next =
      (outcomeEntries span.number [span.number] reply ++ [.closed span.number], .finished reply) := by
  cases reply <;> rfl

/-- The entries of a request to the API up to the answer of the backend, in span number `next`. -/
def requestFront (action : GatewayAction) (r : Request) (next : Nat) : List Entry :=
  .event ((gatewayApi component backend).dispatchEvent action) [] ::
    .opened (Job.spanAt tracing [] [] next (gatewaySpan component action r))
      (gatewaySpan component action r) (tracing.propagator.parent? r.headers) ::
      consultEntries action r [next]

/-- Validation and the backend: the only wait is the one for the backend's answer. -/
theorem waitsOnce_consultBackend (action : GatewayAction) (r : Request) (span : OpenSpan) (next : Nat) :
    let reply := gatewayReply backend action r
    Job.WaitsOnce tracing (outcomeEntries span.number [span.number] reply ++ [.closed span.number]) [span]
      reply ((consultBackend backend action r).bind settle) [span] next
      (consultEntries action r [span.number]) := by
  intro reply
  have hsettle : ∀ n, Job.WaitsOnce tracing
      (outcomeEntries span.number [span.number] reply ++ [.closed span.number]) [span] reply
      ((settle reply).delayed n) [span] next [] := fun n =>
    .delayed n (advance_settle tracing reply span next)
  -- a request that is refused does not wait at all, which is to wait for nothing
  by_cases h : missingFields action r = []
  · have hreply : reply = (backend.answer action r).outcome.map fun result => result.toResponse r :=
      if_pos h
    rw [consultBackend_of_complete backend h, consultEntries, if_pos h]
    simp only [Job.bind, replyOf_bind, ← hreply]
    exact .emit _ (.invoke _ (hsettle _))
  · have hreply : reply = .error (missingError (missingFields action r)) := if_neg h
    rw [consultBackend_of_missing backend h, consultEntries, if_neg h]
    simp only [Job.bind, ← hreply]
    exact .emit _ (hsettle 0)

/-- A request to the API opens its span behind the event of the dispatcher; what is done in the span and
what is done with the reply are one piece behind the backend. -/
theorem dispatch_of_known {action : GatewayAction} {r : Request}
    (h : GatewayAction.ofOperation? r.operation = some action) :
    (gatewayApi component backend).dispatch custom r =
      .emit ((gatewayApi component backend).dispatchEvent action)
        (.openSpan (gatewaySpan component action r) ((consultBackend backend action r).bind settle)) := by
  have hresolve : (gatewayApi component backend).resolve r.operation = some action := h
  rw [Api.dispatch, hresolve]
  show Job.emit _ (Job.openSpan _ _) = _
  rw [Job.bind_eq, Job.bind_assoc]
  rfl

/-- **The job of a request to the API** waits once, in the span of the request. -/
theorem waitsOnce_known {action : GatewayAction} {r : Request}
    (h : GatewayAction.ofOperation? r.operation = some action) (next : Nat) :
    let reply := gatewayReply backend action r
    Job.WaitsOnce tracing (outcomeEntries next [next] reply ++ [.closed next])
      [Job.spanAt tracing [] [] next (gatewaySpan component action r)] reply
      ((gatewayApi component backend).dispatch custom r) [] next
      (requestFront tracing component backend action r next) := by
  intro reply
  rw [dispatch_of_known component backend custom h]
  exact .emit _ (.openSpan _ (waitsOnce_consultBackend tracing backend action r
    (Job.spanAt tracing [] [] next (gatewaySpan component action r)) (next + 1)))

/-- **The job of any other request** waits once, and opens no span. -/
theorem waitsOnce_custom {r : Request} (h : GatewayAction.ofOperation? r.operation = none) (next : Nat) :
    Job.WaitsOnce tracing [] [] (custom.reply r) ((gatewayApi component backend).dispatch custom r) [] next
      (custom.entries r []) := by
  have hresolve : (gatewayApi component backend).resolve r.operation = none := h
  rw [Api.dispatch, hresolve, Operations.reply, Operations.entries]
  show Job.WaitsOnce tracing [] [] _ (custom.process r) [] next _
  rw [Operations.process]
  cases custom.selected r.operation with
  | none => exact .emit _ (.delayed 0 rfl)
  | some selected =>
      obtain ⟨name, handler⟩ := selected
      have hawait : (handler r).await = (Job.done (handler r).outcome).delayed (handler r).delay := by
        rw [Answer.await, Job.bind_eq, Job.pause, Job.bind_delayed]
        rfl
      show Job.WaitsOnce tracing [] [] _ (Job.invoke _ (handler r).await) [] next _
      rw [hawait]
      exact .invoke _ (.delayed _ rfl)

/-! ## What the span is told -/

/-- What the outcome of a request leaves on its span. -/
def outcomeFields : Reply → Fields
  | .ok r =>
    [("http.status_code", Text.decimal r.status.toNat), ("otel.status_code", "OK")]
  | .error e =>
    [("http.status_code", Text.decimal e.status.toNat), ("otel.status_code", "ERROR"),
      ("otel.status_description", e.message)]

/-- The fields tell of a request and its action: the ids are there exactly when the request has them. -/
structure Tagged (action : GatewayAction) (r : Request) (fields : Fields) : Prop where
  name : fields.lookup "otel.name" = some action.spanName
  kind : fields.lookup "otel.kind" = some "server"
  component : fields.lookup "component" = some component
  tenant : fields.lookup "tenant_id" = r.tenant
  device : fields.lookup "device_id" = r.device
  gateway : fields.lookup "gateway_id" = if action = .set then r.gateway else none

theorem tagged_gatewaySpan (action : GatewayAction) (r : Request) :
    Tagged component action r (gatewaySpan component action r).fields := by
  have hfield := lookup_requestSpan component action.spanName r.headers (gatewayTags action r)
  have htags : gatewayTags action r =
      { tenant := r.tenant, device := r.device, gateway := if action = .set then r.gateway else none } := by
    cases action <;> rfl
  exact ⟨hfield "otel.name", hfield "otel.kind", hfield "component",
    (hfield "tenant_id").trans (congrArg SpanTags.tenant htags),
    (hfield "device_id").trans (congrArg SpanTags.device htags),
    (hfield "gateway_id").trans (congrArg SpanTags.gateway htags)⟩

/-! ## The journal of a request to the API -/

/-- The entries for the reply of a request, once it is there, in span number `next`. -/
def replyEntries (next : Nat) (reply? : Option Reply) : List Entry :=
  (reply?.map (outcomeEntries next [next])).getD []

section RequestJournal

variable (action : GatewayAction) (r : Request) (next : Nat) (reply? : Option Reply) (isOver : Bool)

theorem closesNone_requestFront :
    Journal.ClosesNone (requestFront tracing component backend action r next ++ replyEntries next reply?) := by
  intro n
  rw [List.mem_append, not_or]
  constructor
  · by_cases h : missingFields action r = [] <;> simp [requestFront, consultEntries, h]
  · rcases reply? with - | reply
    · exact List.not_mem_nil
    · cases reply <;> simp [replyEntries, outcomeEntries]

theorem views_requestFront :
    let j := requestFront tracing component backend action r next ++ replyEntries next reply? ++
      Journal.closing next isOver
    Journal.openedNumbers j = [next] ∧ Journal.requestSpans j = [next] := by
  intro j
  have hfront : Journal.openedNumbers (requestFront tracing component backend action r next) = [next] ∧
      Journal.requestSpans (requestFront tracing component backend action r next) = [next] := by
    unfold requestFront consultEntries
    split <;> exact ⟨rfl, rfl⟩
  have hreply : Journal.openedNumbers (replyEntries next reply?) = [] ∧
      Journal.requestSpans (replyEntries next reply?) = [] := by
    rcases reply? with - | (e | response) <;> exact ⟨rfl, rfl⟩
  have hclosing : Journal.openedNumbers (Journal.closing next isOver) = [] ∧
      Journal.requestSpans (Journal.closing next isOver) = [] := by
    cases isOver <;> exact ⟨rfl, rfl⟩
  constructor
  · show Journal.openedNumbers (_ ++ _ ++ _) = [next]
    rw [Journal.openedNumbers_append, Journal.openedNumbers_append, hfront.1, hreply.1, hclosing.1]
    rfl
  · show Journal.requestSpans (_ ++ _ ++ _) = [next]
    rw [Journal.requestSpans_append, Journal.requestSpans_append, hfront.2, hreply.2, hclosing.2]
    rfl

/-- The record of the span of a request at its opening. -/
def requestRecord : SpanRecord where
  number := next
  context := (Job.spanAt tracing [] [] next (gatewaySpan component action r)).context
  spec := gatewaySpan component action r
  parent := tracing.propagator.parent? r.headers

/-- The span is opened for the request, and takes only what comes after the answer of the backend. -/
theorem span?_requestFront_append (rest : List Entry) :
    Journal.span? (requestFront tracing component backend action r next ++ rest) next =
      some (rest.foldl SpanRecord.note (requestRecord tracing component action r next)) := by
  have hopened : Journal.opening? next (.opened
      (Job.spanAt tracing [] [] next (gatewaySpan component action r)) (gatewaySpan component action r)
      (tracing.propagator.parent? r.headers)) = some (requestRecord tracing component action r next) :=
    if_pos rfl
  have hfirst : (requestFront tracing component backend action r next ++ rest).findSome?
      (Journal.opening? next) = some (requestRecord tracing component action r next) := by
    rw [requestFront, List.cons_append, List.cons_append, List.findSome?_cons_of_isNone rfl,
      List.findSome?_cons, hopened]
  have hfront : (requestFront tracing component backend action r next).foldl SpanRecord.note
      (requestRecord tracing component action r next) = requestRecord tracing component action r next := by
    unfold requestFront consultEntries
    split <;> rfl
  rw [Journal.span?, hfirst, Option.map_some, List.foldl_append, hfront]

/-- The span takes the outcome, once there is a reply, and nothing else. -/
theorem span?_requestFront :
    ∃ span,
      Journal.span? (requestFront tracing component backend action r next ++ replyEntries next reply? ++
        Journal.closing next isOver) next = some span ∧
      span.spec = gatewaySpan component action r ∧ span.noted = (reply?.map outcomeFields).getD [] := by
  rw [List.append_assoc, span?_requestFront_append]
  refine ⟨_, rfl, ?_⟩
  rcases reply? with - | (e | response) <;> cases isOver <;>
    simp [replyEntries, Journal.closing, outcomeEntries, outcomeFields, SpanRecord.note, requestRecord]

end RequestJournal

/-! ## The life of the span -/

/-- What a journal says about the span of a request, given the outcomes of the moves by which the job of
the request was polled and dropped. -/
structure SpanLife (r : Request) (outcomes : List (Pool.Outcome Reply)) (j : Journal) : Prop where
  /-- One span opens if the API knows the operation and the job was polled, and none otherwise. -/
  opened : (Journal.requestSpans j).length =
    if (GatewayAction.ofOperation? r.operation).isSome ∧ outcomes.any Pool.Outcome.isPoll then 1 else 0
  /-- There are no other spans. -/
  only : Journal.openedNumbers j = Journal.requestSpans j
  /-- The span closes once, when the job has ended or was dropped, and not before. -/
  closed : ∀ n ∈ Journal.requestSpans j,
    Journal.timesClosed n j = if outcomes.any Pool.Outcome.isEnd then 1 else 0
  /-- After a span was closed nothing is said about it, or within it. -/
  silent : ∀ before n after, j = before ++ .closed n :: after → ∀ e ∈ after, n ∉ e.spans
  /-- The span is opened with the fields that tell of the request. -/
  tagged : ∀ n ∈ Journal.requestSpans j, ∃ action span,
    GatewayAction.ofOperation? r.operation = some action ∧ j.span? n = some span ∧
      Tagged component action r span.spec.fields
  /-- The span takes the outcome when the processing ends. -/
  noted : ∀ reply, .finished reply ∈ outcomes → ∀ n ∈ Journal.requestSpans j, ∀ span,
    j.span? n = some span → span.noted = outcomeFields reply
  /-- The span takes nothing as long as the processing has not ended. -/
  unnoted : (∀ reply, .finished reply ∉ outcomes) → ∀ n ∈ Journal.requestSpans j, ∀ span,
    j.span? n = some span → span.noted = []

section SpanLife

variable {tracing component backend} {r : Request} {outcomes : List (Pool.Outcome Reply)}

/-- The life of no span at all. -/
theorem spanLife_of_no_span {j : Journal} (hopened : Journal.openedNumbers j = [])
    (hspans : Journal.requestSpans j = []) (hclosed : Journal.ClosesNone j)
    (h : ¬ ((GatewayAction.ofOperation? r.operation).isSome ∧ outcomes.any Pool.Outcome.isPoll)) :
    SpanLife component r outcomes j := by
  have hnone : ∀ n, n ∉ Journal.requestSpans j := by
    intro n hn
    rw [hspans] at hn
    exact List.not_mem_nil hn
  refine ⟨?_, hopened.trans hspans.symm, fun n hn => absurd hn (hnone n), ?_,
    fun n hn => absurd hn (hnone n), fun reply _ n hn => absurd hn (hnone n),
    fun _ n hn => absurd hn (hnone n)⟩
  · rw [hspans, if_neg h]
    rfl
  · rintro before n after rfl
    exact absurd (List.mem_append_right before List.mem_cons_self) (hclosed n)

/-- The life of a span that is there, whether or not there is a reply yet, and whether or not the job is
over. -/
theorem spanLife_of_requestFront (reply? : Option Reply) (isOver : Bool) {action : GatewayAction}
    {j : Journal}
    (hj : j = requestFront tracing component backend action r 0 ++ replyEntries 0 reply? ++
      Journal.closing 0 isOver)
    (hr : GatewayAction.ofOperation? r.operation = some action)
    (hpolled : outcomes.any Pool.Outcome.isPoll = true) (hover : outcomes.any Pool.Outcome.isEnd = isOver)
    (hreply : ∀ reply, .finished reply ∈ outcomes ↔ reply? = some reply) :
    SpanLife component r outcomes j := by
  subst hj
  have hclosed := closesNone_requestFront tracing component backend action r 0 reply?
  obtain ⟨hopened, hspans⟩ := views_requestFront tracing component backend action r 0 reply? isOver
  obtain ⟨record, hrecord, hspec, hnoted⟩ :=
    span?_requestFront tracing component backend action r 0 reply? isOver
  have hzero : ∀ {n}, n ∈ Journal.requestSpans (requestFront tracing component backend action r 0 ++
      replyEntries 0 reply? ++ Journal.closing 0 isOver) → n = 0 := by
    intro n hn
    rw [hspans] at hn
    exact List.mem_singleton.mp hn
  refine ⟨?opened, hopened.trans hspans.symm, ?closed, ?silent, ?tagged, ?noted, ?unnoted⟩
  case opened =>
    have hknown : (GatewayAction.ofOperation? r.operation).isSome = true := by
      rw [hr]
      rfl
    rw [hspans, if_pos ⟨hknown, hpolled⟩]
    rfl
  case closed =>
    intro n hn
    obtain rfl := hzero hn
    rw [hover]
    exact Journal.timesClosed_closing hclosed 0 isOver
  case silent =>
    intro before n after hj
    obtain rfl := Journal.eq_nil_of_closing hclosed hj
    exact fun e he => absurd he List.not_mem_nil
  case tagged =>
    intro n hn
    obtain rfl := hzero hn
    exact ⟨action, record, hr, hrecord, hspec ▸ tagged_gatewaySpan component action r⟩
  case noted =>
    intro reply hfinished n hn span hspan
    obtain rfl := hzero hn
    obtain rfl := Option.some.inj (hrecord.symm.trans hspan)
    rw [hnoted, (hreply reply).mp hfinished]
    rfl
  case unnoted =>
    intro hunfinished n hn span hspan
    obtain rfl := hzero hn
    obtain rfl := Option.some.inj (hrecord.symm.trans hspan)
    have hnone : reply? = none :=
      Option.eq_none_iff_forall_ne_some.mpr fun reply h => hunfinished reply ((hreply reply).mpr h)
    rw [hnoted, hnone]
    rfl

/-- The life of the span of a request that the API knows and whose job was polled. -/
theorem spanLife_of_fate {action : GatewayAction} {j : Journal}
    (hr : GatewayAction.ofOperation? r.operation = some action)
    (hpolled : outcomes.any Pool.Outcome.isPoll = true)
    (hfate : Pool.Fate (requestFront tracing component backend action r 0)
      (outcomeEntries 0 [0] (gatewayReply backend action r) ++ [.closed 0])
      [Job.spanAt tracing [] [] 0 (gatewaySpan component action r)] (gatewayReply backend action r) j
      outcomes) :
    SpanLife component r outcomes j := by
  -- each fate says how much of the journal there is: the front, the outcome, the closing
  cases hfate with
  | waiting written alive =>
      have hover : outcomes.any Pool.Outcome.isEnd = false :=
        List.any_eq_false.mpr fun o ho => by
          rw [alive o ho]
          exact Bool.false_ne_true
      have hunfinished : ∀ reply, .finished reply ∉ outcomes := fun reply h => by cases alive _ h
      have hj : j = requestFront tracing component backend action r 0 ++ replyEntries 0 none ++
          Journal.closing 0 false := by
        rw [written]
        exact (List.append_nil _).symm.trans (List.append_nil _).symm
      exact spanLife_of_requestFront none false hj hr hpolled hover fun reply =>
        iff_of_false (hunfinished reply) (fun h => by cases h)
  | dropped written gone unanswered =>
      have hover : outcomes.any Pool.Outcome.isEnd = true := List.any_eq_true.mpr ⟨_, gone, rfl⟩
      have hj : j = requestFront tracing component backend action r 0 ++ replyEntries 0 none ++
          Journal.closing 0 true := by
        rw [written, replyEntries, Option.map_none, Option.getD_none, List.append_nil]
        rfl
      exact spanLife_of_requestFront none true hj hr hpolled hover fun reply =>
        iff_of_false (unanswered reply) (fun h => by cases h)
  | ended written answered =>
      have hover : outcomes.any Pool.Outcome.isEnd = true :=
        List.any_eq_true.mpr ⟨_, (answered _).mpr rfl, rfl⟩
      have hj : j = requestFront tracing component backend action r 0 ++
          replyEntries 0 (some (gatewayReply backend action r)) ++ Journal.closing 0 true := by
        rw [written, ← List.append_assoc]
        rfl
      refine spanLife_of_requestFront _ true hj hr hpolled hover fun reply => ?_
      rw [answered, Option.some_inj]
      exact eq_comm

/-- A job that opens no span leaves none, whatever its fate. -/
theorem spanLife_of_custom (custom : Operations) {j : Journal} (hr : GatewayAction.ofOperation? r.operation = none)
    (hj : j = [] ∨ j = custom.entries r []) : SpanLife component r outcomes j := by
  have hentries : Journal.openedNumbers (custom.entries r []) = [] ∧
      Journal.requestSpans (custom.entries r []) = [] ∧ Journal.ClosesNone (custom.entries r []) := by
    rw [Operations.entries]
    cases custom.selected r.operation with
    | none => exact ⟨rfl, rfl, fun n h => by cases List.mem_singleton.mp h⟩
    | some selected => exact ⟨rfl, rfl, fun n h => by cases List.mem_singleton.mp h⟩
  have hunknown : ¬ ((GatewayAction.ofOperation? r.operation).isSome ∧
      outcomes.any Pool.Outcome.isPoll) := by
    rw [hr]
    exact fun h => Bool.false_ne_true h.1
  rcases hj with rfl | rfl
  · exact spanLife_of_no_span rfl rfl (fun n => List.not_mem_nil) hunknown
  · exact spanLife_of_no_span hentries.1 hentries.2.1 hentries.2.2 hunknown

end SpanLife

/-- **A request span closes once**, whoever polls and drops the job of the request, and however long the
backend takes. -/
theorem request_span_closes_once (r : Request) (schedule : List Pool.Move) :
    let pool := Pool.ofJobs [((gatewayApi component backend).dispatcher.call custom r).1.lazily] []
    SpanLife component r (pool.outcomes tracing schedule) (pool.after tracing schedule).journal := by
  show SpanLife component r
    ((Pool.ofJobs [(gatewayApi component backend).dispatch custom r] []).outcomes tracing schedule)
    ((Pool.ofJobs [(gatewayApi component backend).dispatch custom r] []).after tracing schedule).journal
  cases hr : GatewayAction.ofOperation? r.operation with
  | none =>
      have honce := waitsOnce_custom tracing component backend custom hr 0
      rcases Pool.fate_ofJobs honce schedule with ⟨-, hjournal⟩ | ⟨-, hfate⟩
      · exact spanLife_of_custom custom hr (.inl hjournal)
      · -- nothing is held and nothing is written after the wait
        refine spanLife_of_custom custom hr (.inr ?_)
        cases hfate with
        | waiting written alive => exact written
        | dropped written gone unanswered => exact written.trans (List.append_nil _)
        | ended written answered => exact written.trans (List.append_nil _)
  | some action =>
      have honce := waitsOnce_known tracing component backend custom hr 0
      rcases Pool.fate_ofJobs honce schedule with ⟨hunpolled, hjournal⟩ | ⟨hpolled, hfate⟩
      · rw [hjournal]
        refine spanLife_of_no_span rfl rfl (fun n => List.not_mem_nil) fun h => ?_
        rw [hunpolled] at h
        exact Bool.false_ne_true h.2
      · exact spanLife_of_fate hr hpolled hfate

end DeviceMessaging
