import DeviceMessaging.Proofs.DeviceConnection.Interference
import DeviceMessaging.Proofs.DeviceConnection.Questions
import DeviceMessaging.Proofs.Pool.Openings
import DeviceMessaging.Proofs.Trace.RoundTrip

/-!
# `Proofs.DeviceConnection.Parents` — where the parent of a request span comes from

A request span continues the trace that the headers of the request name, and nothing else has a say: neither
the spans that are open where the request is polled, nor other headers. A client writes the headers inside the
span of its call, at the poll at which it also sends the request; so the span of the request becomes a child
of the span of this very call, whatever else goes on.

## Contents
- `Propagator.Names`, `SameTrace`: the parent that headers name.
- `Enquiry`, with `Enquiry.advance_job`: a client call within spans of its caller, and its first poll.
- `Enquiry.Carried`, `Enquiry.exists_carried`: what a client call sends.
- `Enquiry.Continued`, `Enquiry.exists_continued`: what becomes of it when a dispatcher is the service.
- `OwnParent` and `parents_come_from_headers`.
-/

namespace DeviceMessaging

/-! ## Requests -/

/-- The parent is the one that is extracted from the headers, provided that they have a `traceparent`. -/
structure Propagator.Names (p : Propagator) (headers : Option Headers) (parent : Option SpanContext) :
    Prop where
  absent : headers = none → parent = none
  unnamed : ∀ hs, headers = some hs → hs.find? "traceparent" = none → parent = none
  named : ∀ hs value, headers = some hs → hs.find? "traceparent" = some value → parent = p.extract? hs

theorem Propagator.names_parent? (p : Propagator) (headers : Option Headers) :
    p.Names headers (p.parent? headers) where
  absent := by
    rintro rfl
    rfl
  unnamed := by
    rintro hs rfl h
    exact parent?_of_find?_none h
  named := by
    rintro hs value rfl h
    exact parent?_of_find?_some h

/-- Headers with the same `traceparent` and the same `tracestate`, or without them. -/
def SameTrace (headers headers' : Option Headers) : Prop :=
  ∀ name, name = "traceparent" ∨ name = "tracestate" →
    headers.bind (Keyed.find? · name) = headers'.bind (Keyed.find? · name)

theorem SameTrace.parent?_eq {headers headers' : Option Headers} (h : SameTrace headers headers')
    (p : Propagator) : p.parent? headers = p.parent? headers' := by
  have hparent := h "traceparent" (.inl rfl)
  have hstate := h "tracestate" (.inr rfl)
  cases headers with
  | none =>
      cases headers' with
      | none => rfl
      | some hs' => exact (Propagator.parent?_of_find?_none hparent.symm).symm
  | some hs =>
      cases headers' with
      | none => exact Propagator.parent?_of_find?_none hparent
      | some hs' => exact Propagator.parent?_congr hparent hstate

/-! ## Client calls -/

/-- A question that a caller puts to a client, within spans of its own. -/
structure Enquiry (ι : Type) where
  /-- The spans of the caller, the outermost first. -/
  around : List SpanSpec
  client : Client ι
  question : Question

namespace Enquiry

section Calls

variable {ι : Type} (S : Service ι) (e : Enquiry ι)

/-- The job of the caller. -/
def job : Job Reading := e.around.foldr Job.inSpan (e.client.ask S e.question)

/-- The request that the client sends. -/
def request (headers : Headers) : Request := e.question.request e.client.tenant headers

/-- The span of the call. -/
def span : SpanSpec := e.question.span e.client.tenant

/-- What the job does in the span of the call, once it knows the headers. -/
def sending (headers : Headers) : Job Reading :=
  ((S.oneshot (S.clone e.client.service) (e.request headers)).bind (Client.conclude e.question)).bind
    fun a => Job.leave a e.around.length

/-- **The job of a caller**: the spans of the caller open, then that of the call, in which the headers are
written. -/
theorem job_eq :
    e.job S = e.around.foldr Job.openSpan (.openSpan e.span (.withHeaders (e.sending S))) := by
  rw [job, Job.foldr_inSpan, Client.ask_eq]
  rfl

/-- Once the headers are written, only the service acts, on the request. -/
theorem can_sending {headers : Headers} {a : Act} (h : (e.sending S headers).Can a) :
    ∃ i, (S.call i (e.request headers)).1.lazily.Can a := by
  rcases Job.Can.of_bind h with h | ⟨reading, h⟩
  · rcases Job.Can.of_bind h with h | ⟨reply, h⟩
    · exact Service.can_oneshot h
    · exact absurd h Client.not_can_conclude
  · exact absurd h Job.not_can_leave

end Calls

section FirstPoll

variable {ι : Type} (e : Enquiry ι) (tracing : Tracing) (next : Nat)

/-- The spans that the caller holds open around the span of the call, when the first of them has the number
`next`. -/
def callerSpans : List OpenSpan := (Job.enter tracing e.around [] next).2

/-- The opening of the span of the call. -/
def clientOpening : Opening :=
  ⟨Job.spanAt tracing [] (e.callerSpans tracing next) (next + e.around.length) e.span, e.span,
    tracing.parent? (e.callerSpans tracing next) e.span.parent⟩

/-- The headers of the request, which are written in the span of the call. -/
def headers : Headers := tracing.propagator.inject (some (e.clientOpening tracing next).span.context)

/-- The spans that are open when the request is sent. -/
def scope : List OpenSpan := (e.clientOpening tracing next).span :: e.callerSpans tracing next

/-- The entries of the first poll up to the opening of the span of the call. -/
def front : List Entry :=
  let client := e.clientOpening tracing next
  (Job.enter tracing e.around [] next).1 ++ [.opened client.span client.spec client.parent]

/-- What the first poll does behind that, with how far it gets. -/
def sent (S : Service ι) : List Entry × Progress Reading :=
  (e.sending S (e.headers tracing next)).advance tracing [] (e.scope tracing next)
    (next + e.around.length + 1)

/-- **The first poll of a caller.** -/
theorem advance_job (S : Service ι) :
    (e.job S).advance tracing [] [] next =
      (e.front tracing next ++ (e.sent tracing next S).1, (e.sent tracing next S).2) := by
  rw [job_eq, Job.advance_foldr_openSpan]
  simp only [Job.advance_openSpan, Job.advance_withHeaders, List.append_nil]
  simp only [front, List.append_assoc]
  rfl

theorem openings_front :
    Journal.openings (e.front tracing next) =
      Journal.openings (Job.enter tracing e.around [] next).1 ++ [e.clientOpening tracing next] := by
  rw [front, Journal.openings_append]
  rfl

theorem calls_front : Journal.calls (e.front tracing next) = [] := by
  rw [front, Journal.calls_append, Job.calls_enter]
  rfl

/-- The span of the call is valid, when the ids are proper. -/
theorem isValid_clientOpening {count : Nat} (hids : tracing.ids.Proper count)
    (hnext : next + e.around.length < count) :
    (e.clientOpening tracing next).span.context.isValid = true := by
  have hcaller : ∀ s ∈ e.callerSpans tracing next, s.context.isValid = true :=
    Job.isValid_enter hids e.around (fun s hs => absurd hs List.not_mem_nil) (Nat.le_of_lt hnext)
  exact Job.isValid_spanAt hids hcaller hnext e.span

end FirstPoll

/-! ## What a client call hands on -/

section Carried

variable {ι : Type} (S : Service ι) (tracing : Tracing)

/-- What comes of a client call whose service is reported, given the entries of its slot: the span of the call
opens within those of the caller, and whatever is called is the service with a request that carries the
identity of this span, or is called by the service about such a request. -/
structure Carried (e : Enquiry (ι × Bool)) (own : List Entry) (client : Opening) : Prop where
  opened : ∃ outer inner, Journal.openings own = outer ++ client :: inner ∧
    outer.map Opening.spec = e.around
  call : client.spec = e.question.span e.client.tenant
  carried : ∀ call ∈ Journal.calls own, ∃ r, (∃ headers, r = e.question.request e.client.tenant headers) ∧
    r.headers = some (tracing.propagator.inject (some client.span.context)) ∧
    ((∃ ready, call = .service ready r) ∨ ∃ i, (S.call i r).1.lazily.Can (.call call))

variable {e : Enquiry ι} {p : Pool Reading} {i : Nat}

/-- What a slot with a client call has done once it was polled. -/
theorem exists_front (hslot : p.slots[i]? = some (some (e.job S).start)) {moves : List Pool.Move}
    (hpolled : Pool.polled i (p.log tracing moves) = true) :
    ∃ next later, p.ownEntries tracing i moves =
        e.front tracing next ++ ((e.sent tracing next S).1 ++ later) ∧
      ∀ x ∈ later, ∀ a, x.act? = some a → Job.leftCan a (e.sent tracing next S).2 := by
  rcases Pool.ownEntries_of_start tracing hslot moves with ⟨hidle, -⟩ | ⟨-, next, later, hown, hlater⟩
  · cases hidle.symm.trans hpolled
  · rw [e.advance_job tracing next S] at hown hlater
    exact ⟨next, later, hown.trans (List.append_assoc _ _ _), hlater⟩

/-- Behind the opening of its span a call does only what it can do with the headers. -/
theorem can_of_front {next : Nat} {later : List Entry}
    (hlater : ∀ x ∈ later, ∀ a, x.act? = some a → Job.leftCan a (e.sent tracing next S).2) :
    ∀ x ∈ (e.sent tracing next S).1 ++ later, ∀ a, x.act? = some a →
      (e.sending S (e.headers tracing next)).Can a := by
  intro x hx a hact
  rcases List.mem_append.mp hx with hx | hx
  · exact Job.can_of_advance (.inl ⟨x, hx, hact⟩)
  · exact Job.can_of_advance (.inr (hlater x hx a hact))

end Carried

/-- **Every request carries the identity of the call** that it is sent in, whatever the service does. -/
theorem exists_carried {ι : Type} (S : Service ι) (tracing : Tracing) {e : Enquiry (ι × Bool)}
    {p : Pool Reading} {i : Nat} (hslot : p.slots[i]? = some (some (e.job S.watched).start))
    {moves : List Pool.Move} (hpolled : Pool.polled i (p.log tracing moves) = true) :
    ∃ client, Carried S tracing e (p.ownEntries tracing i moves) client := by
  obtain ⟨next, later, hown, hlater⟩ := exists_front S.watched tracing hslot hpolled
  have hopened : Journal.openings (p.ownEntries tracing i moves) =
      Journal.openings (Job.enter tracing e.around [] next).1 ++
        e.clientOpening tracing next :: Journal.openings ((e.sent tracing next S.watched).1 ++ later) := by
    rw [hown, Journal.openings_append, openings_front, List.append_assoc]
    rfl
  refine ⟨e.clientOpening tracing next, ⟨_, _, hopened, Job.map_spec_enter tracing e.around [] next⟩, rfl, ?_⟩
  intro call hcall
  rw [hown, Journal.calls_append, calls_front, List.nil_append] at hcall
  obtain ⟨x, hx, hact⟩ := Journal.mem_calls.mp hcall
  obtain ⟨j, hcan⟩ := e.can_sending S.watched (can_of_front S.watched tracing hlater x hx _ hact)
  refine ⟨e.request (e.headers tracing next), ⟨_, rfl⟩, rfl, ?_⟩
  rcases Service.can_call_watched hcan with ⟨ready, hready⟩ | hcan
  · exact .inl ⟨ready, Act.call.inj hready⟩
  · exact .inr ⟨j.1, hcan⟩

/-! ## A client call to the dispatcher -/

section Continued

variable (tracing : Tracing) (component : String) (backend : Backend) (layers : List String)
  (e : Enquiry (Operations × Bool))

/-- What comes of a client call in slot `i` of a pool, when a dispatcher is the service: `own` are the entries
of the slot, `log` is the log of the whole pool, and `count` the number of all spans that were opened. -/
structure Continued (i : Nat) (own : List Entry) (log : List (Pool.Deed Reading)) (count : Nat)
    (client request : Opening) (sent : Request) : Prop where
  /-- The slot opens the spans of the caller, the span of the call and one span of a request. -/
  opened : ∃ outer, Journal.openings own = outer ++ [client, request] ∧ outer.map Opening.spec = e.around
  call : client.spec = e.question.span e.client.tenant
  served : request.spec = gatewaySpan component e.question.action sent
  /-- One request is sent, to an instance that is ready. -/
  sends : ∀ ready r, .service ready r ∈ Journal.calls own ↔ ready = true ∧ r = sent
  asks : ∃ headers, sent = e.question.request e.client.tenant headers
  /-- The request carries the identity of the span of the call. -/
  carried : sent.headers = some (tracing.propagator.inject (some client.span.context))
  named : tracing.propagator.Names sent.headers request.parent
  /-- If contexts do not travel, the request carries nothing, and its span is a root. -/
  silent : tracing.propagator = .silent → sent.headers = some Keyed.empty ∧ request.parent = none
  /-- If they do, the parent of the span of the request is the span of this very call: of all spans of the
  pool, no other is named by it. -/
  linked : tracing.propagator = .traceHeaders → tracing.ids.Proper count →
    ∃ parent, request.parent = some parent ∧ parent.sameSpan client.span.context = true ∧
      ∀ d ∈ log, ∀ o ∈ Journal.openings d.entries, parent.sameSpan o.span.context = true →
        d.slot = i ∧ o.span.number = client.span.number

/-- What the call does with the headers, up to the span of the request; behind that it can only call the
backend. -/
theorem exists_sending_eq (headers : Headers) :
    ∃ rest, e.sending (gatewayService component backend layers).watched headers =
        .invoke (.service true (e.request headers))
          (.emit ((gatewayApi component backend).dispatchEvent e.question.action)
            (.openSpan (gatewaySpan component e.question.action (e.request headers)) rest)) ∧
      ∀ a, rest.Can a → a = .call (e.question.backendCall e.client.tenant) := by
  let service := gatewayService component backend layers
  let custom := e.client.service.1
  obtain ⟨rest, hrest, hcan⟩ := exists_call_gatewayService component backend layers custom
    (e.question.ofOperation?_request e.client.tenant headers)
  have honeshot : service.watched.oneshot (service.watched.clone e.client.service) (e.request headers) =
      .invoke (.service true (e.request headers)) (service.call custom (e.request headers)).1.lazily := by
    have hclone : service.watched.clone e.client.service = (custom, false) :=
      congrArg (·, false) (clone_gatewayService component backend layers custom)
    have hpoll : service.pollReady custom = (.ready, custom) :=
      congrFun (Service.pollReady_layered layers _) custom
    rw [hclone, Service.oneshot_of_ready (Service.pollReady_watched_of_ready hpoll false)]
    rfl
  have hserved : (service.call custom (e.request headers)).1.lazily = _ := hrest
  rw [hserved] at honeshot
  refine ⟨(rest.bind (Client.conclude e.question)).bind fun a => Job.leave a e.around.length, ?_, ?_⟩
  · rw [sending, honeshot]
    rfl
  · intro a h
    rcases Job.Can.of_bind h with h | ⟨reading, h⟩
    · rcases Job.Can.of_bind h with h | ⟨reply, h⟩
      · rw [hcan a h, Question.gatewayCall_request]
      · exact absurd h Client.not_can_conclude
    · exact absurd h Job.not_can_leave

/-- The opening of the span of the request. -/
def requestOpening (next : Nat) : Opening :=
  let spec := gatewaySpan component e.question.action (e.request (e.headers tracing next))
  ⟨Job.spanAt tracing [] (e.scope tracing next) (next + e.around.length + 1) spec, spec,
    tracing.propagator.parent? (some (e.headers tracing next))⟩

/-- The entries from the sending of the request up to the opening of its span. -/
def servedEntries (next : Nat) : List Entry :=
  let request := e.requestOpening tracing component next
  let scope := numbers (e.scope tracing next)
  [.called (.service true (e.request (e.headers tracing next))) scope,
    .event ((gatewayApi component backend).dispatchEvent e.question.action) scope,
    .opened request.span request.spec request.parent]

/-- **The first poll gets as far as the span of the request**; what comes after it, at this poll or later, is
at most a call of the backend. -/
theorem exists_served {next : Nat} {later : List Entry}
    (hlater : ∀ x ∈ later, ∀ a, x.act? = some a →
      Job.leftCan a (e.sent tracing next (gatewayService component backend layers).watched).2) :
    ∃ tail, (e.sent tracing next (gatewayService component backend layers).watched).1 ++ later =
        e.servedEntries tracing component backend next ++ tail ∧
      ∀ x ∈ tail, ∀ a, x.act? = some a → a = .call (e.question.backendCall e.client.tenant) := by
  obtain ⟨rest, hsending, hcan⟩ :=
    e.exists_sending_eq component backend layers (e.headers tracing next)
  let request := e.requestOpening tracing component next
  let last := rest.advance tracing [] (request.span :: e.scope tracing next) (next + e.around.length + 2)
  have hsent : e.sent tracing next (gatewayService component backend layers).watched =
      (e.servedEntries tracing component backend next ++ last.1, last.2) := by
    rw [sent, hsending]
    simp only [Job.advance_invoke, Job.advance_emit, Job.advance_openSpan, List.append_nil]
    rfl
  have hlast : ∀ a, (∃ x ∈ last.1, x.act? = some a) ∨ Job.leftCan a last.2 →
      a = .call (e.question.backendCall e.client.tenant) :=
    fun a h => hcan a (Job.can_of_advance h)
  rw [hsent] at hlater
  refine ⟨last.1 ++ later, by rw [hsent, List.append_assoc], ?_⟩
  intro x hx a hact
  rcases List.mem_append.mp hx with hx | hx
  · exact hlast a (.inl ⟨x, hx, hact⟩)
  · exact hlast a (.inr (hlater x hx a hact))

/-- The headers of the request name the span of the call and no other span of the pool. -/
theorem linked_of_mem {p : Pool Reading} {moves : List Pool.Move} {i next : Nat}
    (hmem : e.clientOpening tracing next ∈ Journal.openings (p.ownEntries tracing i moves))
    (htravel : tracing.propagator = .traceHeaders)
    (hids : tracing.ids.Proper (p.after tracing moves).journal.spansOpened) :
    ∃ parent, (e.requestOpening tracing component next).parent = some parent ∧
      parent.sameSpan (e.clientOpening tracing next).span.context = true ∧
      ∀ d ∈ p.log tracing moves, ∀ o ∈ Journal.openings d.entries,
        parent.sameSpan o.span.context = true →
          d.slot = i ∧ o.span.number = (e.clientOpening tracing next).span.number := by
  obtain ⟨d₀, hd₀, hslot, ho₀⟩ := Pool.exists_deed_of_ownEntries tracing hmem
  have hnumber := Pool.number_lt_of_log tracing hd₀ ho₀
  have hvalid := e.isValid_clientOpening tracing next hids hnumber
  obtain ⟨parent, hparent, htrace, hspan⟩ := Propagator.exists_parent?_inject hvalid
  refine ⟨parent, ?_, ?_, ?_⟩
  · show tracing.propagator.parent? (some (tracing.propagator.inject _)) = some parent
    rw [htravel]
    exact hparent
  · rw [SpanContext.sameSpan, htrace, hspan, beq_self_eq_true, beq_self_eq_true]
    rfl
  · intro d hd o ho hsame
    rw [SpanContext.sameSpan, Bool.and_eq_true, beq_iff_eq, beq_iff_eq] at hsame
    -- two spans with one id have one number, and so are of one slot
    have hid : tracing.ids.spanId (e.clientOpening tracing next).span.number =
        tracing.ids.spanId o.span.number :=
      calc tracing.ids.spanId (e.clientOpening tracing next).span.number
          = (e.clientOpening tracing next).span.context.spanId :=
            (Pool.spanId_of_log tracing hd₀ ho₀).symm
        _ = o.span.context.spanId := hspan.symm.trans hsame.2
        _ = tracing.ids.spanId o.span.number := Pool.spanId_of_log tracing hd ho
    have heq : (e.clientOpening tracing next).span.number = o.span.number :=
      hids.distinct _ hnumber _ (Pool.number_lt_of_log tracing hd ho) hid
    exact ⟨(Pool.slot_of_number tracing hd hd₀ ho ho₀ heq.symm).trans hslot, heq.symm⟩

/-- **A client call hands its span on** to the request that it sends. -/
theorem exists_continued {p : Pool Reading} {i : Nat}
    (hslot : p.slots[i]? = some (some (e.job (gatewayService component backend layers).watched).start))
    {moves : List Pool.Move} (hpolled : Pool.polled i (p.log tracing moves) = true) :
    ∃ client request sent,
      e.Continued tracing component i (p.ownEntries tracing i moves) (p.log tracing moves)
        (p.after tracing moves).journal.spansOpened client request sent := by
  obtain ⟨next, later, hown, hlater⟩ := exists_front _ tracing hslot hpolled
  obtain ⟨tail, htail, hcan⟩ := e.exists_served tracing component backend layers hlater
  rw [htail] at hown
  have hopenings : Journal.openings tail = [] :=
    Journal.openings_eq_nil fun x hx spec hact => by cases hcan x hx _ hact
  have hopened : Journal.openings (p.ownEntries tracing i moves) =
      Journal.openings (Job.enter tracing e.around [] next).1 ++
        [e.clientOpening tracing next, e.requestOpening tracing component next] := by
    rw [hown, Journal.openings_append, Journal.openings_append, openings_front, hopenings,
      List.append_nil, List.append_assoc]
    rfl
  refine ⟨e.clientOpening tracing next, e.requestOpening tracing component next,
    e.request (e.headers tracing next), ⟨_, hopened, Job.map_spec_enter tracing e.around [] next⟩, rfl, rfl,
    ?sends, ⟨_, rfl⟩, rfl, Propagator.names_parent? _ _, ?silent, ?linked⟩
  case sends =>
    have hcalls : Journal.calls (p.ownEntries tracing i moves) =
        .service true (e.request (e.headers tracing next)) :: Journal.calls tail := by
      rw [hown, Journal.calls_append, calls_front, List.nil_append, Journal.calls_append]
      rfl
    intro ready r
    rw [hcalls, List.mem_cons]
    constructor
    · rintro (h | h)
      · cases h
        exact ⟨rfl, rfl⟩
      · obtain ⟨x, hx, hact⟩ := Journal.mem_calls.mp h
        have hbackend : Call.service ready r = e.question.backendCall e.client.tenant :=
          Act.call.inj (hcan x hx _ hact)
        cases hquestion : e.question <;> rw [hquestion] at hbackend <;> cases hbackend
    · rintro ⟨rfl, rfl⟩
      exact .inl rfl
  case silent =>
    intro hsilent
    constructor
    · show some (tracing.propagator.inject _) = some Keyed.empty
      rw [hsilent]
      rfl
    · show tracing.propagator.parent? (some (e.headers tracing next)) = none
      rw [hsilent]
      exact Propagator.parent?_silent _
  case linked =>
    intro htravel hids
    refine e.linked_of_mem tracing component ?_ htravel hids
    rw [hopened]
    exact List.mem_append_right _ List.mem_cons_self

end Continued

end Enquiry

/-! ## Parents -/

/-- A submitted request of the API opens one span, whose parent is the one that its headers name, wherever
its job is polled and whatever other headers there are. -/
structure OwnParent (tracing : Tracing) (component : String) (s : Submitted) (action : GatewayAction) :
    Prop where
  opened : ∀ place places, ∃ span parent,
    Journal.openings ((s.job component).start.visit tracing (place :: places)) =
        [⟨span, gatewaySpan component action s.request, parent⟩] ∧
      tracing.propagator.Names s.request.headers parent
  unmoved : ∀ headers, SameTrace s.request.headers headers → ∀ place places place' places',
    let s' := { s with request := { s.request with headers } }
    (Journal.openings ((s.job component).start.visit tracing (place :: places))).map Opening.parent =
      (Journal.openings ((s'.job component).start.visit tracing (place' :: places'))).map Opening.parent

theorem openings_visit_job (tracing : Tracing) (component : String) (s : Submitted) {action : GatewayAction}
    (h : GatewayAction.ofOperation? s.request.operation = some action) (place : List OpenSpan × Nat)
    (places : List (List OpenSpan × Nat)) :
    Journal.openings ((s.job component).start.visit tracing (place :: places)) =
      [⟨Job.spanAt tracing place.1 [] place.2 (gatewaySpan component action s.request),
        gatewaySpan component action s.request, tracing.propagator.parent? s.request.headers⟩] := by
  let service := gatewayService component s.backend s.layers
  obtain ⟨rest, hrest, hcan⟩ :=
    exists_call_gatewayService component s.backend s.layers (service.clone s.custom) h
  have hjob : s.job component = (service.call (service.clone s.custom) s.request).1.lazily :=
    (s.lazily_submission component).symm
  rw [hjob, show (service.call (service.clone s.custom) s.request).1.lazily = _ from hrest]
  refine Running.openings_visit tracing ?_ place places
  intro spec hspec
  cases hcan _ hspec

theorem ownParent_of_known (tracing : Tracing) (component : String) (s : Submitted)
    {action : GatewayAction} (h : GatewayAction.ofOperation? s.request.operation = some action) :
    OwnParent tracing component s action where
  opened := by
    intro place places
    exact ⟨_, _, openings_visit_job tracing component s h place places, Propagator.names_parent? _ _⟩
  unmoved := by
    intro headers hsame place places place' places' s'
    rw [openings_visit_job tracing component s h, openings_visit_job tracing component s' h]
    exact congrArg (fun parent => [parent]) (hsame.parent?_eq tracing.propagator)

/-- **The parent of a request span comes from the headers of the request and nothing else.** Every request of
a client carries the identity of the span of its call, whatever else goes on in the pool; and when a
dispatcher is the service, the span of the request is a child of this very span. -/
theorem parents_come_from_headers (tracing : Tracing) (jobs : List (Job Reading)) (i : Nat)
    (moves : List Pool.Move) :
    let pool := Pool.ofJobs jobs []
    let own := pool.ownEntries tracing i moves
    let log := pool.log tracing moves
    let count := (pool.after tracing moves).journal.spansOpened
    (∀ component (s : Submitted) action, GatewayAction.ofOperation? s.request.operation = some action →
      OwnParent tracing component s action) ∧
    (∀ (ι : Type) (S : Service ι) (e : Enquiry (ι × Bool)), jobs[i]? = some (e.job S.watched) →
      Pool.polled i log = true → ∃ client, Enquiry.Carried S tracing e own client) ∧
    ∀ component backend layers (e : Enquiry (Operations × Bool)),
      jobs[i]? = some (e.job (gatewayService component backend layers).watched) →
      Pool.polled i log = true →
        ∃ client request sent, e.Continued tracing component i own log count client request sent := by
  intro pool own log count
  have hslot : ∀ job, jobs[i]? = some job → pool.slots[i]? = some (some job.start) := by
    intro job hi
    show (jobs.map fun t => some t.start)[i]? = _
    rw [List.getElem?_map, hi]
    rfl
  refine ⟨?_, ?_, ?_⟩
  · intro component s action h
    exact ownParent_of_known tracing component s h
  · intro ι S e hi hpolled
    exact Enquiry.exists_carried S tracing (hslot _ hi) hpolled
  · intro component backend layers e hi hpolled
    exact e.exists_continued tracing component backend layers (hslot _ hi) hpolled

/-- A request without headers gets a root span; a question that is put within a span of the caller gets a
request whose span is a child of the span of the call, not of the caller's. -/
theorem root_and_child :
    let tracing := Tracing.forHeaders .traceHeaders []
    let backend : Backend := ⟨fun _ _ => ⟨1, .ok (.ofStatus 404)⟩, fun _ _ _ => ⟨1, .ok (.ofStatus 204)⟩⟩
    let submitted : Submitted :=
      ⟨["1"], Operations.standard, backend, { operation := GatewayAction.get.operation }⟩
    let e : Enquiry (Operations × Bool) :=
      ⟨[Client.callSpan "outer" []], ⟨"tenant", Operations.standard, false⟩, .store "device" "gateway"⟩
    let pool := Pool.ofJobs [e.job (gatewayService "component" backend ["1"]).watched] []
    (∃ span spec, Journal.openings ((submitted.job "component").start.visit tracing [([], 0)]) =
        [⟨span, spec, none⟩]) ∧
      ∃ outer client request parent,
        Journal.openings (pool.ownEntries tracing 0 [.poll 0]) = [outer, client, request] ∧
        request.parent = some parent ∧ parent.sameSpan client.span.context = true := by
  intro tracing backend submitted e pool
  have hparents := parents_come_from_headers tracing
    [e.job (gatewayService "component" backend ["1"]).watched] 0 [.poll 0]
  constructor
  · obtain ⟨span, parent, hopened, hnames⟩ :=
      (hparents.1 "component" submitted .get (by decide)).opened ([], 0) []
    obtain rfl : parent = none := hnames.absent rfl
    exact ⟨span, _, hopened⟩
  · have hpolled : Pool.polled 0 (pool.log tracing [.poll 0]) = true := Pool.polled_of_held tracing rfl []
    obtain ⟨client, request, sent, hcontinued⟩ := hparents.2.2 "component" backend ["1"] e rfl hpolled
    obtain ⟨outer, hopened, hspecs⟩ := hcontinued.opened
    obtain ⟨caller, rfl⟩ : ∃ caller, outer = [caller] := by
      refine List.length_eq_one_iff.mp ?_
      rw [← List.length_map, hspecs]
      rfl
    -- three spans are opened in all, which is less than a run of ids
    have hcount : (pool.after tracing [.poll 0]).journal.spansOpened = 3 := by
      have hown : pool.ownEntries tracing 0 [.poll 0] = (pool.after tracing [.poll 0]).journal := by
        rw [Pool.journal_after, Pool.ownEntries, Pool.own_log_of_slots tracing (by simp [Pool.Move.slot])]
        rfl
      rw [← hown, ← Journal.length_openings, hopened]
      rfl
    have hids : tracing.ids.Proper (pool.after tracing [.poll 0]).journal.spansOpened := by
      rw [hcount]
      exact IdSource.proper_apartFrom (by decide) (by decide)
    obtain ⟨parent, hparent, hsame, -⟩ := hcontinued.linked rfl hids
    exact ⟨caller, client, request, parent, hopened, hparent, hsame⟩

end DeviceMessaging
