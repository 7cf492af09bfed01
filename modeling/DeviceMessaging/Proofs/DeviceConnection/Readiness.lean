import DeviceMessaging.Proofs.DeviceConnection.Questions
import DeviceMessaging.Proofs.Service.Readiness

/-!
# `Proofs.DeviceConnection.Readiness` — nobody calls a service that is not ready

A user of a layered service makes its instances ready himself; a client clones its instance for every request
and drives the clone to readiness before the call. Either way the service behind the layers is called on ready
instances only, and once for each request.

## Contents
- `Client.watched`, with `Client.compare_ask`: a client, and one whose service is watched.
- `Client.Enquiry`, `Client.calls`: calls that are under way.
- `Client.Sends` and `Client.sends`: what becomes of the calls of clients, whoever polls and drops them.
- `layers_call_ready_instances`.
-/

namespace DeviceMessaging

variable {ι : Type}

namespace Client

/-- The client with its instance watched; the instance itself is never made ready. -/
def watched (c : Client ι) : Client (ι × Bool) := ⟨c.tenant, c.service, false⟩

/-- The call of a ready instance, with the request of a client for a question. -/
def IsSent (c : Client ι) (q : Question) (call : Call) : Prop :=
  ∃ headers, call = .service true (q.request c.tenant headers)

/-- What a client concludes from a failure is the failure. -/
theorem silent_conclude (q : Question) (e : Error) : (conclude q (.error e)).Silent (.error e) := by
  cases q <;> rfl

/-- **A client's call and the same call over the watched service.** -/
theorem compare_ask {S : Service ι} {c : Client ι} {wait : Nat} {outcome : Except Error ι}
    (h : S.Drives (S.clone c.service) wait outcome) (layers : List String) (q : Question) :
    match outcome with
    | .ok _ => Job.Reported (c.IsSent q) wait (c.ask (S.layered layers) q)
        (c.watched.ask (S.watched.layered layers) q)
    | .error e => c.watched.ask (S.watched.layered layers) q = c.ask (S.layered layers) q ∧
        (c.ask (S.layered layers) q).Silent (.error e) := by
  have hclone : (S.watched.layered layers).clone c.watched.service = (S.clone c.service, false) := by
    rw [Service.clone_layered]
    rfl
  have hclone' : (S.layered layers).clone c.service = S.clone c.service := by
    rw [Service.clone_layered]
  have hsend := fun headers => h.oneshot layers false (q.request c.tenant headers)
  rw [ask_eq, ask_eq, hclone, hclone']
  cases outcome with
  | ok j =>
      refine .openSpan _ (.withHeaders fun headers => ?_)
      exact ((hsend headers).mono fun call hcall => ⟨headers, hcall⟩).bind (conclude q)
  | error e =>
      constructor
      · refine congrArg (Job.openSpan _) (congrArg Job.withHeaders (funext fun headers => ?_))
        exact congrArg (Job.bind · (conclude q)) (hsend headers).1
      · exact fun headers => (hsend headers).2.bind (silent_conclude q e)

/-- A client's question, with the service as it is for the call. -/
structure Enquiry (ι : Type) where
  service : Service ι
  client : Client ι
  question : Question

/-- The job of the call, behind layers. -/
def Enquiry.job (e : Enquiry ι) (layers : List String) : Job Reading :=
  e.client.ask (e.service.layered layers) e.question

/-- The job of the same call, when the service behind the layers is watched. -/
def Enquiry.watchedJob (e : Enquiry ι) (layers : List String) : Job Reading :=
  e.client.watched.ask (e.service.watched.layered layers) e.question

/-- What becomes of a client's call, given what its job has done and what it has done over the watched
service. -/
inductive Sends (e : Enquiry ι) (log log' : List (Pool.Deed Reading)) : Prop where
  /-- The clone becomes ready behind some attempts, and is called once: when the job is polled again. -/
  | called {wait : Nat} {j : ι} (driven : e.service.Drives (e.service.clone e.client.service) wait (.ok j))
      (once : Pool.Compared (e.client.IsSent e.question) wait log log')
  /-- The clone fails to become ready: nothing is called or logged, and the failure is the result. -/
  | failed {wait : Nat} {error : Error}
      (driven : e.service.Drives (e.service.clone e.client.service) wait (.error error)) (same : log' = log)
      (silent : ∀ d ∈ log', (∀ entry ∈ d.entries, entry.isSpan = true) ∧
        ∀ result, d.outcome = .finished result → result = .error error)

section Schedules

variable (tracing : Tracing) (layers : List String) (enquiries : List (Enquiry ι))

/-- The calls of clients, none of which has been polled. -/
def calls : Pool Reading := Pool.ofJobs (enquiries.map fun e => e.job layers) []

/-- The same calls over the watched services. -/
def watchedCalls : Pool Reading := Pool.ofJobs (enquiries.map fun e => e.watchedJob layers) []

theorem slots_calls (k : Nat) :
    (calls layers enquiries).slots[k]? = (enquiries[k]?).map (fun e => some (e.job layers).start) ∧
      (watchedCalls layers enquiries).slots[k]? =
        (enquiries[k]?).map (fun e => some (e.watchedJob layers).start) := by
  unfold calls watchedCalls Pool.ofJobs
  constructor
  · rw [List.getElem?_map, List.getElem?_map, Option.map_map]
    rfl
  · rw [List.getElem?_map, List.getElem?_map, Option.map_map]
    rfl

theorem paired_calls : Pool.Paired (calls layers enquiries) (watchedCalls layers enquiries) := by
  refine ⟨rfl, ?_, fun k => ?_⟩
  · simp [calls, watchedCalls, Pool.ofJobs]
  · obtain ⟨hslot, hslot'⟩ := slots_calls layers enquiries k
    rw [hslot, hslot']
    cases enquiries[k]? with
    | none => exact .same none
    | some e =>
        obtain ⟨wait, outcome, hdriven⟩ := e.service.exists_drives (e.service.clone e.client.service)
        have hask := compare_ask hdriven layers e.question
        cases outcome with
        | ok j => exact .due [] hask
        | error error =>
            have hsame : e.watchedJob layers = e.job layers := hask.1
            rw [Option.map_some, Option.map_some, hsame]
            exact .same _

/-- **Every call of a client** is sent to a ready instance and once, or fails as that instance does. -/
theorem sends (schedule : List Pool.Move) (k : Fin enquiries.length) :
    Sends enquiries[k] (Pool.own k ((calls layers enquiries).log tracing schedule))
      (Pool.own k ((watchedCalls layers enquiries).log tracing schedule)) := by
  have hpaired := paired_calls layers enquiries
  obtain ⟨hslot, hslot'⟩ := slots_calls layers enquiries k
  have hk : enquiries[(k : Nat)]? = some enquiries[k] := List.getElem?_eq_getElem k.isLt
  rw [hk, Option.map_some] at hslot hslot'
  generalize enquiries[k] = e at hslot hslot' ⊢
  obtain ⟨wait, outcome, hdriven⟩ := e.service.exists_drives (e.service.clone e.client.service)
  have hask := compare_ask hdriven layers e.question
  rw [← Pool.history_move, ← Pool.history_move]
  have hturns := Pool.turnsCompare_moves (α := Reading) schedule
  cases outcome with
  | ok j => exact .called hdriven (hpaired.compared_of_due hturns hask hslot hslot')
  | error error =>
      have hjobs : e.watchedJob layers = e.job layers := hask.1
      rw [hjobs] at hslot'
      have hlength := (List.getElem?_eq_some_iff.mp hslot).1
      have hsame : Pool.own k ((watchedCalls layers enquiries).history tracing (schedule.map .move)) =
          Pool.own k ((calls layers enquiries).history tracing (schedule.map .move)) :=
        hpaired.own_of_same hturns hlength (hslot'.trans hslot.symm)
      refine .failed hdriven hsame ?_
      rw [hsame]
      exact Pool.own_of_silent tracing hslot hask.2 _

end Schedules

end Client

/-- **A layer never calls a service that is not ready.** Behind any number of layers every run of a user calls
ready instances, once for each job that is polled; attempts at readiness go through the layers unchanged, and
do nothing else; and the calls of clients are sent to ready instances, once each. -/
theorem layers_call_ready_instances (tracing : Tracing) (layers : List String) :
    (∀ (layer : String) (i : ι) (occasions : List (Usage.Occasion ι)),
      Usage.CallsReady (layer :: layers) tracing i occasions) ∧
    (∀ S : Service ι, (S.layered layers).pollReady = S.pollReady ∧
      ∀ (u : Usage (ι × Bool)) (k : Nat),
        (u.step (S.watched.layered layers) tracing (.pollReady k)).pool = u.pool) ∧
    ∀ (enquiries : List (Client.Enquiry ι)) (schedule : List Pool.Move) (k : Fin enquiries.length),
      Client.Sends enquiries[k]
        (Pool.own k ((Client.calls layers enquiries).log tracing schedule))
        (Pool.own k ((Client.watchedCalls layers enquiries).log tracing schedule)) := by
  refine ⟨fun layer i occasions => ?_, fun S => ⟨?_, fun u k => ?_⟩, fun enquiries schedule k => ?_⟩
  · exact Usage.callsReady layer layers tracing i occasions
  · exact Service.pollReady_layered layers S
  · exact Usage.pool_pollReady u k
  · exact Client.sends tracing layers enquiries schedule k

end DeviceMessaging
