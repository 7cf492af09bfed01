import DeviceMessaging.Proofs.DeviceConnection.Questions
import DeviceMessaging.Proofs.Registry.Sessions

/-!
# `Proofs.DeviceConnection.Isolation` — a client never speaks for another tenant

Callers ask a registry for clients, put questions to the clients that they got, and go on using them after
others had them removed. All of this may alternate: the lock sections of the registry, and the polls of the
calls that are under way. Still every client belongs to the tenant it was asked for, and all that is sent on
its behalf names that tenant.

## Contents
- `Registry.InOrder`, `inOrder_serve`: every client is kept under its own tenant.
- `Registry.Session.Orderly`, `Orderly.step`: every client was handed out for its own tenant.
- `Traffic`, `Traffic.step`, `Traffic.run`: a registry, its callers and the questions that they put.
- `Question.IsRequest`, `Traffic.Owned`: what is sent for a question.
- `Traffic.Isolated`, with `Isolated.step` and `Isolated.run`: one move, and whole runs.
- `tenants_are_isolated`, with `removed_client_keeps_its_tenant`: a run with a removal.
-/

namespace DeviceMessaging

variable {ι : Type}

/-! ## The registry -/

namespace Registry

variable {S : Service ι}

/-- Every client is kept under its own tenant. -/
def InOrder (g : Registry ι) : Prop := ∀ tenant c, g.lookup? tenant = some c → c.client.tenant = tenant

/-- **A call in one piece** keeps the registry in order, and hands out a client only to those who asked for
its tenant. -/
theorem inOrder_serve {g g' : Registry ι} (h : g.InOrder) {call : Call} {written : List Event}
    {a : Answer ι} (served : g.serve S call = (written, a, g')) :
    g'.InOrder ∧ ∀ c, a = .client c → call = .client c.client.tenant := by
  cases call with
  | client u =>
      cases hu : g.clients.find? u with
      | some kept =>
          simp only [serve, obtain, hu, Prod.mk.injEq] at served
          obtain ⟨-, rfl, rfl⟩ := served
          refine ⟨h, ?_⟩
          intro c hc
          obtain rfl : kept = c := Answer.client.inj hc
          have htenant : kept.client.tenant = u := h u kept hu
          rw [htenant]
      | none =>
          simp only [serve, obtain, hu, Prod.mk.injEq] at served
          obtain ⟨-, rfl, rfl⟩ := served
          constructor
          · intro tenant c hc
            rw [lookup?, Keyed.find?_insert] at hc
            split at hc
            · next heq =>
                cases hc
                exact heq.symm
            · exact h tenant c hc
          · intro c hc
            cases hc
            rfl
  | remove u =>
      simp only [serve, remove, Prod.mk.injEq] at served
      obtain ⟨-, rfl, rfl⟩ := served
      constructor
      · intro tenant c hc
        rw [lookup?, Keyed.find?_erase] at hc
        split at hc
        · cases hc
        · exact h tenant c hc
      · intro c hc
        cases hc
  | count =>
      simp only [serve, Prod.mk.injEq] at served
      obtain ⟨-, rfl, rfl⟩ := served
      refine ⟨h, ?_⟩
      intro c hc
      cases hc

namespace Session

/-- The callers of a session asked for `asked`: every client is kept under its own tenant, and was handed
out to callers who asked for its tenant. -/
structure Orderly (asked : List Call) (s : Session ι) : Prop where
  registry : s.registry.InOrder
  length : s.calls.length = asked.length
  waiting : ∀ (k : Nat) (stage : Stage), s.calls[k]? = some (.waiting stage) → asked[k]? = some stage.call
  handed : ∀ (k : Nat) (c : NumberedClient ι), s.calls[k]? = some (.answered (.client c)) →
    asked[k]? = some (.client c.client.tenant)

/-- A call that has its answer keeps it. -/
theorem answered_step {s : Session ι} (m : Move) {k : Nat} {a : Answer ι}
    (h : s.calls[k]? = some (.answered a)) : (s.step S m).calls[k]? = some (.answered a) := by
  have hset : ∀ {stage : Stage}, s.calls[m.caller]? = some (.waiting stage) →
      ∀ p : Progress ι, (s.calls.set m.caller p)[k]? = some (.answered a) := by
    intro stage hwaiting p
    have hne : k ≠ m.caller := by
      rintro rfl
      cases h.symm.trans hwaiting
    rw [getElem?_set_of_some hwaiting, if_neg hne, h]
  cases turn_of_step S s m with
  | idle gone completes after => rwa [after]
  | waits stage stage' waiting completes same after =>
      rw [after]
      exact hset waiting _
  | given_up stage waiting completes after =>
      rw [after]
      exact hset waiting _
  | served stage a' written g' waiting completes serve after =>
      rw [after]
      exact hset waiting _

namespace Orderly

variable {asked : List Call} {s : Session ι}

/-- A call that waits may go on to whatever its caller asked for. -/
theorem set (h : Orderly asked s) {k : Nat} {stage : Stage} (hk : s.calls[k]? = some (.waiting stage))
    {p : Progress ι} {g : Registry ι} (events : List Event) (hg : g.InOrder)
    (hwaiting : ∀ stage', p = .waiting stage' → stage'.call = stage.call)
    (hhanded : ∀ c, p = .answered (.client c) → stage.call = .client c.client.tenant) :
    Orderly asked ⟨g, s.calls.set k p, events⟩ where
  registry := hg
  length := by
    show (s.calls.set k p).length = asked.length
    rw [List.length_set, h.length]
  waiting := by
    intro j stage' hj
    rw [getElem?_set_of_some hk] at hj
    split at hj
    · next heq =>
        subst heq
        rw [hwaiting stage' (Option.some.inj hj)]
        exact h.waiting j stage hk
    · exact h.waiting j stage' hj
  handed := by
    intro j c hj
    rw [getElem?_set_of_some hk] at hj
    split at hj
    · next heq =>
        subst heq
        rw [← hhanded c (Option.some.inj hj)]
        exact h.waiting j stage hk
    · exact h.handed j c hj

/-- **One move of the registry** hands out clients for their own tenants. -/
theorem step (h : Orderly asked s) (m : Move) : Orderly asked (s.step S m) := by
  cases turn_of_step S s m with
  | idle gone completes after =>
      rw [after]
      exact h
  | waits stage stage' waiting completes same after =>
      rw [after]
      refine h.set waiting s.events h.registry ?_ ?_
      · intro stage'' heq
        cases heq
        exact same
      · intro c heq
        cases heq
  | given_up stage waiting completes after =>
      rw [after]
      refine h.set waiting s.events h.registry ?_ ?_
      · intro stage' heq
        cases heq
      · intro c heq
        cases heq
  | served stage a written g' waiting completes serve after =>
      obtain ⟨hregistry, hhanded⟩ := inOrder_serve h.registry serve
      rw [after]
      refine h.set waiting _ hregistry ?_ ?_
      · intro stage' heq
        cases heq
      · intro c heq
        cases heq
        exact hhanded c rfl

/-- One more caller waits for what it asked for. -/
theorem ask (h : Orderly asked s) (call : Call) :
    Orderly (asked ++ [call]) { s with calls := s.calls ++ [.waiting call.begin] } where
  registry := h.registry
  length := by
    show (s.calls ++ [Progress.waiting call.begin]).length = (asked ++ [call]).length
    rw [List.length_append, List.length_append, h.length]
    rfl
  waiting := by
    intro k stage hk
    rcases getElem?_concat_eq_some hk with hold | ⟨rfl, hnew⟩
    · exact getElem?_append_of_some (h.waiting k stage hold) _
    · cases hnew
      rw [h.length, List.getElem?_concat_length, Call.call_begin]
  handed := by
    intro k c hk
    rcases getElem?_concat_eq_some hk with hold | ⟨rfl, hnew⟩
    · exact getElem?_append_of_some (h.handed k c hold) _
    · cases hnew

end Orderly

end Session

end Registry

/-! ## Callers and their questions -/

/-- A registry with its callers, who put questions to the clients that they were handed. -/
structure Traffic (ι : Type) where
  session : Registry.Session ι
  /-- What the registry was asked for, caller by caller. -/
  asked : List Registry.Call
  /-- The calls of clients, each in a slot of its own. -/
  pool : Pool Reading
  /-- For each slot the caller whose client is used, and the question. -/
  questions : List (Nat × Question)
  /-- All that was done in the slots. -/
  deeds : List (Pool.Deed Reading)

namespace Traffic

/-- What happens next. -/
inductive Move where
  /-- One more caller asks the registry. -/
  | ask (call : Registry.Call)
  /-- The registry serves a caller, or a caller gives up. -/
  | registry (move : Registry.Move)
  /-- A caller puts a question to the client that it was handed, whether or not the registry still keeps
  the client. -/
  | put (caller : Nat) (question : Question)
  /-- A call of a client is polled or dropped. -/
  | job (move : Pool.Move)

/-- The client that a caller was handed. -/
def client? (t : Traffic ι) (caller : Nat) : Option (NumberedClient ι) :=
  match t.session.calls[caller]? with
  | some (.answered (.client c)) => some c
  | _ => none

/-- A registry that nobody has asked yet. -/
def ofService (service : ι) : Traffic ι :=
  ⟨Registry.Session.ofCalls (.ofService service) [], [], Pool.ofJobs [] [], [], []⟩

/-- One move; a caller without a client cannot put a question. -/
def step (S : Service ι) (tracing : Tracing) (t : Traffic ι) : Move → Traffic ι
  | .ask call =>
    { t with
      session := { t.session with calls := t.session.calls ++ [.waiting call.begin] }
      asked := t.asked ++ [call] }
  | .registry move => { t with session := t.session.step S move }
  | .put caller q =>
    match t.client? caller with
    | some c =>
      { t with pool := t.pool.add (c.client.ask S q) [], questions := t.questions ++ [(caller, q)] }
    | none => t
  | .job move =>
    { t with pool := (t.pool.step tracing move).2, deeds := t.deeds ++ [t.pool.deed tracing move] }

/-- A sequence of moves. -/
def run (S : Service ι) (tracing : Tracing) (t : Traffic ι) (moves : List Move) : Traffic ι :=
  moves.foldl (step S tracing) t

end Traffic

/-! ## What is sent for a question -/

/-- The request for a tenant's question: it names the tenant, and has the operation and the ids of the
question and nothing else but headers. -/
structure Question.IsRequest (q : Question) (tenant : String) (r : Request) : Prop where
  operation : r.operation = q.action.operation
  tenant : r.tenant = some tenant
  device : r.device = some q.device
  gateway : r.gateway = q.gateway?
  payload : r.payload = none
  correlation : r.correlation = none

theorem Question.isRequest_request (q : Question) (tenant : String) (headers : Headers) :
    q.IsRequest tenant (q.request tenant headers) :=
  ⟨rfl, rfl, rfl, rfl, rfl, rfl⟩

/-- All that the backend reads of a request is settled by the question. -/
theorem Question.IsRequest.gatewayCall {q : Question} {tenant : String} {r : Request}
    (h : q.IsRequest tenant r) : gatewayCall q.action r = q.backendCall tenant := by
  have htenant := h.tenant
  have hdevice := h.device
  have hgateway := h.gateway
  cases q <;> simp_all [DeviceMessaging.gatewayCall, backendCall, action, Question.device, gateway?]

namespace Traffic

variable {S : Service ι} {t : Traffic ι}

/-- In slot `i` the question `q` is put to the client `c`, which a caller was handed who asked for its
tenant. -/
def PutTo (t : Traffic ι) (i : Nat) (q : Question) (c : NumberedClient ι) : Prop :=
  ∃ caller, t.questions[i]? = some (caller, q) ∧
    t.asked[caller]? = some (.client c.client.tenant) ∧
    t.session.calls[caller]? = some (.answered (.client c))

/-- The call is one that the service makes, in slot `i`, about a request for the question there. -/
def Owned (S : Service ι) (t : Traffic ι) (i : Nat) (call : Call) : Prop :=
  ∃ q c r j, t.PutTo i q c ∧ q.IsRequest c.client.tenant r ∧ (S.call j r).1.lazily.Can (.call call)

theorem client?_eq_some_iff {caller : Nat} {c : NumberedClient ι} :
    t.client? caller = some c ↔ t.session.calls[caller]? = some (.answered (.client c)) := by
  unfold client?
  constructor
  · intro h
    split at h
    · next c' hc =>
        cases h
        exact hc
    · cases h
  · intro h
    rw [h]

/-- A question opens a slot if there is a client to put it to. -/
theorem step_put_of_some {tracing : Tracing} {caller : Nat} {c : NumberedClient ι}
    (h : t.client? caller = some c) (q : Question) :
    t.step S tracing (.put caller q) =
      { t with pool := t.pool.add (c.client.ask S q) [], questions := t.questions ++ [(caller, q)] } := by
  simp only [step, h]

theorem step_put_of_none {tracing : Tracing} {caller : Nat} (h : t.client? caller = none)
    (q : Question) : t.step S tracing (.put caller q) = t := by
  simp only [step, h]

/-- No move takes a question back. -/
theorem PutTo.step {i : Nat} {q : Question} {c : NumberedClient ι} (h : t.PutTo i q c)
    (tracing : Tracing) (m : Move) : (t.step S tracing m).PutTo i q c := by
  obtain ⟨caller, hquestion, hasked, hanswered⟩ := h
  cases m with
  | ask call =>
      exact ⟨caller, hquestion, getElem?_append_of_some hasked _, getElem?_append_of_some hanswered _⟩
  | registry move => exact ⟨caller, hquestion, hasked, Registry.Session.answered_step move hanswered⟩
  | put caller' q' =>
      cases hc : t.client? caller' with
      | some c' =>
          rw [step_put_of_some hc]
          exact ⟨caller, getElem?_append_of_some hquestion _, hasked, hanswered⟩
      | none =>
          rw [step_put_of_none hc]
          exact ⟨caller, hquestion, hasked, hanswered⟩
  | job move => exact ⟨caller, hquestion, hasked, hanswered⟩

theorem Owned.step {i : Nat} {call : Call} (h : t.Owned S i call) (tracing : Tracing) (m : Move) :
    (t.step S tracing m).Owned S i call := by
  obtain ⟨q, c, r, j, hput, hrequest, hcan⟩ := h
  exact ⟨q, c, r, j, hput.step tracing m, hrequest, hcan⟩

/-- Clients are handed out for their own tenants, and what was done in the slots, or can still be done
there, is done about the questions put there. -/
structure Isolated (S : Service ι) (t : Traffic ι) : Prop where
  orderly : t.session.Orderly t.asked
  slots : t.pool.slots.length = t.questions.length
  pending : t.pool.Keeps fun i a => ∀ call, a = .call call → t.Owned S i call
  done : ∀ d ∈ t.deeds, ∀ call scope, .called call scope ∈ d.entries → t.Owned S d.slot call

namespace Isolated

/-- The slot of a new question can do only what the service does about its request. -/
theorem owned_of_put (h : Isolated S t) {caller : Nat} {c : NumberedClient ι}
    (hc : t.client? caller = some c) (q : Question) (tracing : Tracing) {call : Call}
    (hcan : (c.client.ask S q).Can (.call call)) :
    (t.step S tracing (.put caller q)).Owned S t.pool.slots.length call := by
  have hput : (t.step S tracing (.put caller q)).PutTo t.pool.slots.length q c := by
    have hanswered := client?_eq_some_iff.mp hc
    rw [step_put_of_some hc]
    refine ⟨caller, ?_, h.orderly.handed caller c hanswered, hanswered⟩
    show (t.questions ++ [(caller, q)])[t.pool.slots.length]? = some (caller, q)
    rw [h.slots, List.getElem?_concat_length]
  rcases Client.can_ask hcan with hspan | ⟨headers, honeshot⟩
  · cases hspan
  · obtain ⟨j, hj⟩ := Service.can_oneshot honeshot
    exact ⟨q, c, _, j, hput, q.isRequest_request c.client.tenant headers, hj⟩

/-- **One move** keeps the tenants apart. -/
theorem step (h : Isolated S t) (tracing : Tracing) (m : Move) : Isolated S (t.step S tracing m) := by
  -- what was owned before the move is owned after it, in slots old and new
  have hpending : t.pool.Keeps fun i a => ∀ call, a = .call call → (t.step S tracing m).Owned S i call :=
    h.pending.mono fun i a howned call heq => (howned call heq).step tracing m
  have hdone : ∀ d ∈ t.deeds, ∀ call scope, .called call scope ∈ d.entries →
      (t.step S tracing m).Owned S d.slot call :=
    fun d hd call scope he => (h.done d hd call scope he).step tracing m
  cases m with
  | ask call => exact ⟨h.orderly.ask call, h.slots, hpending, hdone⟩
  | registry move => exact ⟨h.orderly.step move, h.slots, hpending, hdone⟩
  | put caller q =>
      cases hc : t.client? caller with
      | none =>
          rw [step_put_of_none hc]
          exact h
      | some c =>
          have hnew : ∀ a, (c.client.ask S q).Can a → ∀ call, a = .call call →
              (t.step S tracing (.put caller q)).Owned S t.pool.slots.length call := by
            intro a hcan call heq
            subst heq
            exact h.owned_of_put hc q tracing hcan
          rw [step_put_of_some hc] at hpending hdone hnew ⊢
          refine ⟨h.orderly, ?_, hpending.add [] hnew, hdone⟩
          show (t.pool.slots ++ [_]).length = (t.questions ++ [(caller, q)]).length
          rw [List.length_append, List.length_append, h.slots]
          rfl
  | job move =>
      refine ⟨h.orderly, (Pool.length_step tracing t.pool move).trans h.slots,
        hpending.step tracing move, ?_⟩
      intro d hd call scope he
      rcases List.mem_append.mp hd with hd | hd
      · exact hdone d hd call scope he
      · obtain rfl := List.mem_singleton.mp hd
        exact hpending.deed tracing he rfl call rfl

/-- **Whole runs** keep the tenants apart. -/
theorem run (h : Isolated S t) (tracing : Tracing) (moves : List Move) :
    Isolated S (t.run S tracing moves) := by
  induction moves generalizing t with
  | nil => exact h
  | cons m ms ih => exact ih (h.step tracing m)

theorem ofService (S : Service ι) (service : ι) : Isolated S (ofService service) where
  orderly := by
    refine ⟨?_, rfl, ?_, ?_⟩
    · intro tenant c hc
      cases hc
    · intro k stage hk
      cases hk
    · intro k c hk
      cases hk
  slots := rfl
  pending := by
    intro i r hr
    cases hr
  done := by
    intro d hd
    exact absurd hd List.not_mem_nil

end Isolated

end Traffic

/-! ## Isolation -/

/-- What comes of the traffic over a registry whose clients use the service `S`, when each call of the
service is reported. -/
structure Traffic.Separated (S : Service ι) (t : Traffic (ι × Bool)) : Prop where
  /-- A client is kept under its own tenant. -/
  kept : ∀ (tenant : String) (c : NumberedClient (ι × Bool)),
    t.session.registry.lookup? tenant = some c → c.client.tenant = tenant
  /-- A client that is handed out belongs to the tenant that was asked for. -/
  handed : ∀ (caller : Nat) (tenant : String) (c : NumberedClient (ι × Bool)),
    t.asked[caller]? = some (.client tenant) →
    t.session.calls[caller]? = some (.answered (.client c)) → c.client.tenant = tenant
  /-- Whatever is called for a question put to a client is the service with a request for this question of
  the client's tenant, or is called by the service about such a request. -/
  sent : ∀ d ∈ t.deeds, ∀ call scope, .called call scope ∈ d.entries →
    ∃ q c r, t.PutTo d.slot q c ∧ q.IsRequest c.client.tenant r ∧
      ((∃ ready, call = .service ready r) ∨ ∃ i, (S.call i r).1.lazily.Can (.call call))

theorem Traffic.separated_run (S : Service ι) (service : ι) (tracing : Tracing)
    (moves : List Traffic.Move) :
    Separated S ((ofService (service, false)).run S.watched tracing moves) := by
  have hisolated := (Isolated.ofService S.watched (service, false)).run tracing moves
  refine ⟨hisolated.orderly.registry, ?_, ?_⟩
  · intro caller tenant c hasked hanswered
    have howned := hisolated.orderly.handed caller c hanswered
    rw [hasked] at howned
    exact (Registry.Call.client.inj (Option.some.inj howned)).symm
  · intro d hd call scope he
    obtain ⟨q, c, r, j, hput, hrequest, hcan⟩ := hisolated.done d hd call scope he
    refine ⟨q, c, r, hput, hrequest, ?_⟩
    rcases Service.can_call_watched hcan with ⟨ready, hready⟩ | hcan
    · exact .inl ⟨ready, Act.call.inj hready⟩
    · exact .inr ⟨j.1, hcan⟩

/-- **Tenants are isolated**: whatever the callers of a registry do, and whoever has whose client removed,
every client belongs to the tenant that it was asked for, and every request that it sends names that tenant
and the ids of its question. Behind the dispatcher of the API the backend hears of nothing but the questions,
each with its own tenant. -/
theorem tenants_are_isolated (tracing : Tracing) (moves : List Traffic.Move) :
    (∀ (ι : Type) (S : Service ι) (service : ι),
      Traffic.Separated S ((Traffic.ofService (service, false)).run S.watched tracing moves)) ∧
    ∀ component backend layers (custom : Operations),
      let t := (Traffic.ofService (custom, false)).run (gatewayService component backend layers).watched
        tracing moves
      ∀ d ∈ t.deeds, ∀ call scope, .called call scope ∈ d.entries →
        ∃ q c, t.PutTo d.slot q c ∧
          ((∃ ready r, call = .service ready r ∧ q.IsRequest c.client.tenant r) ∨
            call = q.backendCall c.client.tenant) := by
  constructor
  · intro ι S service
    exact Traffic.separated_run S service tracing moves
  · intro component backend layers custom t d hd call scope he
    have hseparated :=
      Traffic.separated_run (gatewayService component backend layers) custom tracing moves
    obtain ⟨q, c, r, hput, hrequest, hcalled⟩ := hseparated.sent d hd call scope he
    refine ⟨q, c, hput, ?_⟩
    rcases hcalled with ⟨ready, hready⟩ | ⟨i, hcan⟩
    · exact .inl ⟨ready, r, hready, hrequest⟩
    · have hknown : GatewayAction.ofOperation? r.operation = some q.action :=
        GatewayAction.ofOperation?_eq_some_iff.mpr hrequest.operation
      exact .inr ((can_call_gatewayService hknown hcan).trans hrequest.gatewayCall)

/-- A client goes on speaking for its tenant after it was removed from the registry. -/
theorem removed_client_keeps_its_tenant :
    let backend : Backend := ⟨fun _ _ => ⟨0, .ok (.ofStatus 404)⟩, fun _ _ _ => ⟨0, .ok (.ofStatus 204)⟩⟩
    let t := (Traffic.ofService (Operations.standard, false)).run (gatewayService "c" backend []).watched
      (Tracing.forHeaders .silent [])
      [.ask (.client "a"), .registry (.advance 0), .registry (.advance 0), .ask (.remove "a"),
        .registry (.advance 1), .put 0 (.store "d" "g"), .job (.poll 0)]
    t.session.registry.count = 0 ∧
      ∃ d ∈ t.deeds, ∃ scope, .called (.setGateway "a" "d" "g") scope ∈ d.entries ∧
        ∃ q c, t.PutTo d.slot q c ∧ q.backendCall c.client.tenant = .setGateway "a" "d" "g" := by
  intro backend t
  let S := (gatewayService "c" backend []).watched
  let client : Client (Operations × Bool) := ⟨"a", Operations.standard, false⟩
  -- the only deed is the poll of the call, which reaches the backend at once
  let d := ((Pool.ofJobs [] []).add (client.ask S (.store "d" "g")) []).deed
    (Tracing.forHeaders .silent []) (.poll 0)
  have hd : d ∈ t.deeds := List.mem_singleton_self d
  have hcalls : Journal.calls d.entries =
      [.service true ((Question.store "d" "g").request "a" .empty), .setGateway "a" "d" "g"] := by
    have hready : S.pollReady (S.clone client.service) = (.ready, Operations.standard, true) := rfl
    show Journal.calls (((Pool.ofJobs [] []).add (client.ask S (.store "d" "g")) []).deed _ _).entries = _
    simp only [Client.ask_eq, Service.oneshot_of_ready hready]
    rfl
  have hcalled : Call.setGateway "a" "d" "g" ∈ Journal.calls d.entries := by
    rw [hcalls]
    exact List.mem_cons_of_mem _ List.mem_cons_self
  obtain ⟨e, he, hact⟩ := Journal.mem_calls.mp hcalled
  cases e <;> cases hact
  refine ⟨rfl, d, hd, _, he, ?_⟩
  obtain ⟨q, c, hput, hservice | hbackend⟩ := (tenants_are_isolated _ _).2 "c" backend [] _ d hd _ _ he
  · obtain ⟨ready, r, hcall, -⟩ := hservice
    cases hcall
  · exact ⟨q, c, hput, hbackend.symm⟩

end DeviceMessaging
