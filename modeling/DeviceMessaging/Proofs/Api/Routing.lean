import DeviceMessaging.Proofs.DeviceConnection.Dispatch
import DeviceMessaging.Proofs.Operations
import DeviceMessaging.Proofs.Pool.Log

/-!
# `Proofs.Api.Routing` — who serves a request

An operation of the API goes to the API, whatever handlers there are. Any other operation goes to the last
handler that it was given, or else to the last fallback, or else it is refused. Dispatchers are cloned and get
new registries at any time, and each routes by its own: the one that it was given last, or the one that it had
from the dispatcher it was cloned from.

## Contents
- `Api.Serves`: who serves a request, and how the request runs then.
- `Api.serves_dispatch`: dispatching by a registry that was made in steps.
- `Api.Fleet`, `Api.Fleet.Move`, `Api.Fleet.run`: dispatchers that are cloned, equipped and called.
- `Api.Fleet.Holds`, with `exists_holds`: which registry a dispatcher has, read off its history.
- `Api.requests_are_routed`.
-/

namespace DeviceMessaging

open Operations (Edit lastHandler? lastFallback?)

namespace Api

/-! ## Who serves a request -/

/-- Who serves the request `r` by the job `job`, when `edits` made the registry of custom operations. -/
inductive Serves (api : Api) (edits : List Edit) (r : Request) (job : Job Reply) : Prop where
  /-- The API does, and nobody else: behind its event the job is the processing of the action. -/
  | action (action : api.Action) (resolved : api.resolve r.operation = some action)
      (job_eq : job = .emit (api.dispatchEvent action) (api.process action r))
      (runs : ∀ tracing ambient held next,
        let processing := (api.process action r).complete tracing ambient held next
        job.complete tracing ambient held next =
          (.event (api.dispatchEvent action) (numbers (held ++ ambient)) :: processing.1, processing.2))
  /-- The last handler of the operation does, or the last fallback if the operation never got a handler. -/
  | handler (name : Option String) (handler : Handler) (unresolved : api.resolve r.operation = none)
      (selected : lastHandler? r.operation edits = some handler ∧ name = some r.operation ∨
        lastHandler? r.operation edits = none ∧ lastFallback? edits = some handler ∧ name = none)
      (job_eq : job = .invoke (.handler name r) (handler r).await)
      (runs : ∀ tracing ambient next, job.complete tracing ambient [] next =
        ([.called (.handler name r) (numbers ambient)], (handler r).outcome))
  /-- Nobody does: there is neither a handler nor a fallback. -/
  | refused (unresolved : api.resolve r.operation = none)
      (unhandled : lastHandler? r.operation edits = none) (no_fallback : lastFallback? edits = none)
      (runs : ∀ tracing ambient next, job.complete tracing ambient [] next =
        ([.event (Operations.refusalEvent r.operation) (numbers ambient)],
          .error (.unsupportedOperation r.operation)))
      (status : (Error.unsupportedOperation r.operation).status = 400)

/-- A request to a registry, run to its end. -/
theorem complete_process (tracing : Tracing) (ambient : List OpenSpan) (ops : Operations) (r : Request)
    (next : Nat) :
    (ops.process r).complete tracing ambient [] next = (ops.entries r (numbers ambient), ops.reply r) := by
  rw [Job.complete_eq_course, Operations.course_process]
  exact congrArg (·, ops.reply r) (List.append_nil _)

/-- A handler that is selected gets the request. -/
theorem process_of_selected {ops : Operations} {r : Request} {name : Option String} {handler : Handler}
    (h : ops.selected r.operation = some (name, handler)) :
    ops.process r = .invoke (.handler name r) (handler r).await := by
  rw [Operations.process, h]
  rfl

/-- What a selected handler comes to is its own outcome, behind one call. -/
theorem complete_of_selected {ops : Operations} {r : Request} {name : Option String} {handler : Handler}
    (h : ops.selected r.operation = some (name, handler)) (tracing : Tracing) (ambient : List OpenSpan)
    (next : Nat) :
    (ops.process r).complete tracing ambient [] next =
      ([.called (.handler name r) (numbers ambient)], (handler r).outcome) := by
  rw [complete_process, Operations.entries, Operations.reply, h]

variable (api : Api)

/-- **Dispatching a request**: the API comes first, then the last handler, then the last fallback. -/
theorem serves_dispatch (edits : List Edit) (r : Request) :
    api.Serves edits r (api.dispatch (.ofEdits edits) r) := by
  cases hresolve : api.resolve r.operation with
  | some action =>
      have hjob : api.dispatch (.ofEdits edits) r =
          .emit (api.dispatchEvent action) (api.process action r) := by
        rw [dispatch, hresolve]
        rfl
      refine .action action hresolve hjob ?_
      intro tracing ambient held next
      rw [hjob]
      rfl
  | none =>
      have hjob : api.dispatch (.ofEdits edits) r = (Operations.ofEdits edits).process r := by
        rw [dispatch, hresolve]
      have hselected := Operations.selected_ofEdits edits r.operation
      rw [hjob]
      cases hhandler : lastHandler? r.operation edits with
      | some handler =>
          rw [hhandler] at hselected
          exact .handler (some r.operation) handler hresolve (.inl ⟨hhandler, rfl⟩)
            (process_of_selected hselected) (complete_of_selected hselected)
      | none =>
          rw [hhandler] at hselected
          cases hfallback : lastFallback? edits with
          | some handler =>
              rw [hfallback] at hselected
              exact .handler none handler hresolve (.inr ⟨hhandler, hfallback, rfl⟩)
                (process_of_selected hselected) (complete_of_selected hselected)
          | none =>
              rw [hfallback] at hselected
              refine .refused hresolve hhandler hfallback ?_ rfl
              intro tracing ambient next
              rw [complete_process, Operations.entries, Operations.reply, hselected]
              rfl

/-! ## Dispatchers and their clones -/

/-- Dispatchers of one API, in the order in which they came to be, each with its registry. -/
abbrev Fleet := List Operations

namespace Fleet

/-- What is done with the dispatchers. -/
inductive Move where
  /-- A dispatcher is cloned; the clone is the newest dispatcher. -/
  | clone (original : Nat)
  /-- A dispatcher is given the registry that the steps make. -/
  | equip (dispatcher : Nat) (edits : List Edit)
  /-- A dispatcher is called. -/
  | call (dispatcher : Nat) (request : Request)

/-- One move; a move that names no dispatcher does nothing. -/
def step (fleet : Fleet) : Move → Fleet
  | .clone k =>
    match fleet[k]? with
    | some i => fleet ++ [api.dispatcher.clone i]
    | none => fleet
  | .equip k edits => fleet.set k (.ofEdits edits)
  | .call k r =>
    match fleet[k]? with
    | some i => fleet.set k (api.dispatcher.call i r).2
    | none => fleet

/-- What comes of a new dispatcher by a sequence of moves. -/
def run (history : List Move) : Fleet := history.foldl (step api) [Operations.standard]

theorem run_concat (history : List Move) (m : Move) :
    run api (history ++ [m]) = step api (run api history) m := by
  unfold run
  rw [List.foldl_append, List.foldl_cons, List.foldl_nil]

/-- After a history, a dispatcher has the registry that `edits` make: it was given it last, or it has it from
its original, and what was done to others since makes no difference. -/
inductive Holds : List Move → Nat → List Edit → Prop where
  | new : Holds [] 0 []
  | given {history : List Move} {k : Nat} {edits : List Edit} (before : Holds history k edits)
      (edits' : List Edit) : Holds (history ++ [.equip k edits']) k edits'
  | inherited {history : List Move} {k : Nat} {edits : List Edit} (before : Holds history k edits) :
      Holds (history ++ [.clone k]) (run api history).length edits
  | kept {history : List Move} {k : Nat} {edits : List Edit} (before : Holds history k edits) {m : Move}
      (other : ∀ edits', m ≠ .equip k edits') : Holds (history ++ [m]) k edits

/-- **One move** leaves every dispatcher with the registry that the history says. -/
theorem holds_step {history : List Move}
    (h : ∀ (k : Nat) (i : Operations), (run api history)[k]? = some i →
      ∃ edits, Holds api history k edits ∧ i = .ofEdits edits)
    (m : Move) {k : Nat} {i : Operations} (hk : (run api (history ++ [m]))[k]? = some i) :
    ∃ edits, Holds api (history ++ [m]) k edits ∧ i = .ofEdits edits := by
  have hkept : (∀ edits', m ≠ .equip k edits') → (run api history)[k]? = some i →
      ∃ edits, Holds api (history ++ [m]) k edits ∧ i = .ofEdits edits := by
    intro hother hold
    obtain ⟨edits, hholds, hi⟩ := h k i hold
    exact ⟨edits, .kept hholds hother, hi⟩
  rw [run_concat] at hk
  cases m with
  | clone j =>
      have hother : ∀ edits', Move.clone j ≠ .equip k edits' := fun _ heq => by cases heq
      cases hj : (run api history)[j]? with
      | none =>
          simp only [step, hj] at hk
          exact hkept hother hk
      | some original =>
          simp only [step, hj] at hk
          rcases getElem?_concat_eq_some hk with hold | ⟨rfl, hnew⟩
          · exact hkept hother hold
          · -- the clone has the registry of its original
            obtain ⟨edits, hholds, horiginal⟩ := h j original hj
            refine ⟨edits, .inherited hholds, ?_⟩
            rw [← hnew, horiginal]
            rfl
  | equip j edits' =>
      simp only [step] at hk
      by_cases hj : j = k
      · subst hj
        obtain ⟨hlt, hset⟩ := List.getElem?_eq_some_iff.mp hk
        rw [List.length_set] at hlt
        obtain ⟨edits, hholds, -⟩ := h j _ (List.getElem?_eq_getElem hlt)
        rw [List.getElem_set_self] at hset
        exact ⟨edits', .given hholds edits', hset.symm⟩
      · rw [List.getElem?_set_ne hj] at hk
        refine hkept ?_ hk
        rintro edits'' heq
        cases heq
        exact hj rfl
  | call j r =>
      have hother : ∀ edits', Move.call j r ≠ .equip k edits' := fun _ heq => by cases heq
      cases hj : (run api history)[j]? with
      | none =>
          simp only [step, hj] at hk
          exact hkept hother hk
      | some caller =>
          -- a call leaves the dispatcher as it was
          have hcaller : (api.dispatcher.call caller r).2 = caller := rfl
          obtain ⟨hlt, hget⟩ := List.getElem?_eq_some_iff.mp hj
          simp only [step, hj, hcaller] at hk
          rw [← hget, List.set_getElem_self] at hk
          exact hkept hother hk

/-- **A whole history** says of every dispatcher which registry it has. -/
theorem exists_holds (history : List Move) {k : Nat} {i : Operations}
    (hk : (run api history)[k]? = some i) : ∃ edits, Holds api history k edits ∧ i = .ofEdits edits := by
  induction history using List.reverseRecOn generalizing k i with
  | nil =>
      have hi := List.mem_singleton.mp (List.mem_of_getElem? hk)
      obtain ⟨hlt, -⟩ := List.getElem?_eq_some_iff.mp hk
      obtain rfl : k = 0 := Nat.lt_one_iff.mp hlt
      exact ⟨[], .new, hi⟩
  | append_singleton history m ih => exact holds_step api (fun _ _ hk => ih hk) m hk

end Fleet

/-- **Requests are routed** by the API first and then by the registry of the dispatcher that is called, as
its history and that of its originals tell; and a registry knows the operations that it was given handlers
for. -/
theorem requests_are_routed (history : List Fleet.Move) :
    (∀ k : Fin (Fleet.run api history).length, ∃ edits, Fleet.Holds api history k edits ∧
      ∀ r, api.Serves edits r (api.dispatcher.call (Fleet.run api history)[k] r).1.lazily) ∧
    ∀ edits operation, (Operations.ofEdits edits).contains operation = true ↔
      ∃ h, .handler operation h ∈ edits := by
  constructor
  · intro k
    obtain ⟨edits, hholds, hi⟩ := Fleet.exists_holds api history (List.getElem?_eq_getElem k.isLt)
    refine ⟨edits, hholds, fun r => ?_⟩
    have hcall : (api.dispatcher.call (Fleet.run api history)[k] r).1.lazily =
        api.dispatch (.ofEdits edits) r := congrArg (api.dispatch · r) hi
    rw [hcall]
    exact api.serves_dispatch edits r
  · intro edits operation
    exact Operations.contains_ofEdits_iff

end Api

end DeviceMessaging
