import DeviceMessaging.Proofs.Job.Course
import DeviceMessaging.Service.Logged

/-!
# `Proofs.Service.Layers` — any number of logging layers

Layers are stacked around a service, each with the text of the time that it measured. A stack answers as
the service inside does and only writes its events behind what that wrote, the innermost layer first.

## Contents
- `Service.layered`, with `pollReady_layered` and `clone_layered`.
- `logEntries` and `course_layered`: what the layers add to the course of a request.
- `tellOutcome`, with `lazily_layered` and `advance_tellOutcome`: the layers behind the job of a call.
- `oneshot_of_ready`, `oneshot_of_pending`, `oneshot_of_failed`: what an attempt at readiness leads to.
-/

namespace DeviceMessaging

namespace Service

variable {ι : Type}

/-- A service behind logging layers, the outermost first. -/
def layered (elapsed : List String) (S : Service ι) : Service ι := elapsed.foldr logged S

@[simp] theorem layered_nil (S : Service ι) : S.layered [] = S := rfl

@[simp] theorem layered_cons (e : String) (es : List String) (S : Service ι) :
    S.layered (e :: es) = logged e (S.layered es) := rfl

@[simp] theorem pollReady_layered (es : List String) (S : Service ι) :
    (S.layered es).pollReady = S.pollReady := by
  induction es with
  | nil => rfl
  | cons e es ih => exact ih

@[simp] theorem clone_layered (es : List String) (S : Service ι) : (S.layered es).clone = S.clone := by
  induction es with
  | nil => rfl
  | cons e es ih => exact ih

/-- A layer makes no calls before its job is polled. -/
theorem atOnce_layered {S : Service ι} (hS : ∀ i r, (S.call i r).1.atOnce = []) (es : List String)
    (i : ι) (r : Request) : ((S.layered es).call i r).1.atOnce = [] := by
  cases es with
  | nil => exact hS i r
  | cons e es => rfl

/-- The events of the layers for one outcome, as entries in a scope. -/
def logEntries (elapsed : List String) (operation : String) (reply : Reply) (scope : List Nat) :
    List Entry :=
  elapsed.reverse.map fun e => .event (outcomeEvent e operation reply) scope

@[simp] theorem calls_logEntries (elapsed : List String) (operation : String) (reply : Reply)
    (scope : List Nat) : Journal.calls (logEntries elapsed operation reply scope) = [] := by
  rw [Journal.calls, List.filterMap_eq_nil_iff]
  intro entry hentry
  obtain ⟨e, -, rfl⟩ := List.mem_map.mp hentry
  rfl

/-- The events of the layers are about the spans of their scope only. -/
theorem spans_of_mem_logEntries {elapsed : List String} {operation : String} {reply : Reply}
    {scope : List Nat} {entry : Entry} (h : entry ∈ logEntries elapsed operation reply scope) :
    entry.spans = scope := by
  obtain ⟨e, -, rfl⟩ := List.mem_map.mp h
  rfl

/-- **Layers answer as the service does**, and write their events last. -/
theorem course_layered (tracing : Tracing) (ambient : List OpenSpan) (elapsed : List String)
    (S : Service ι) (i : ι) (r : Request) (held : List OpenSpan) (next : Nat) :
    ((S.layered elapsed).call i r).1.lazily.course tracing ambient held next =
      let (entries, e) := (S.call i r).1.lazily.course tracing ambient held next
      (entries ++ logEntries elapsed r.operation e.result (numbers (e.held ++ ambient)), e) := by
  induction elapsed with
  | nil => simp [logEntries]
  | cons t ts ih =>
      have hcall : ((S.layered (t :: ts)).call i r).1.lazily =
          ((S.layered ts).call i r).1.lazily.bind fun reply =>
            .emit (outcomeEvent t r.operation reply) (.done reply) := rfl
      rw [hcall, Job.course_bind, ih]
      simp [logEntries]

/-- The events of the layers for one outcome, and the outcome itself. -/
def tellOutcome (elapsed : List String) (operation : String) (reply : Reply) : Job Reply :=
  elapsed.reverse.foldr (fun e rest => .emit (outcomeEvent e operation reply) rest) (.done reply)

/-- **A call behind layers** is the call of the service, and the events of the layers behind it. -/
theorem lazily_layered (elapsed : List String) (S : Service ι) (i : ι) (r : Request) :
    ((S.layered elapsed).call i r).1.lazily =
      (S.call i r).1.lazily.bind (tellOutcome elapsed r.operation) := by
  -- the outermost layer writes last, behind the job of all the others
  have hlast : ∀ (es : List String) (t : String) (reply : Reply),
      (es.foldr (fun e rest => Job.emit (outcomeEvent e r.operation reply) rest) (.done reply)).bind
          (fun reply => .emit (outcomeEvent t r.operation reply) (.done reply)) =
        (es ++ [t]).foldr (fun e rest => .emit (outcomeEvent e r.operation reply) rest) (.done reply) := by
    intro es t reply
    induction es with
    | nil => rfl
    | cons e es ih => exact congrArg (Job.emit _) ih
  induction elapsed with
  | nil => exact (Job.bind_done _).symm
  | cons t ts ih =>
      have hcall : ((S.layered (t :: ts)).call i r).1.lazily =
          ((S.layered ts).call i r).1.lazily.bind fun reply =>
            .emit (outcomeEvent t r.operation reply) (.done reply) := rfl
      rw [hcall, ih, Job.bind_assoc]
      refine congrArg _ (funext fun reply => ?_)
      unfold tellOutcome
      rw [List.reverse_cons]
      exact hlast ts.reverse t reply

/-- The layers write all their events in one piece. -/
theorem advance_tellOutcome (tracing : Tracing) (elapsed : List String) (operation : String) (reply : Reply)
    (next : Nat) :
    (tellOutcome elapsed operation reply).advance tracing [] [] next =
      (logEntries elapsed operation reply [], .finished reply) := by
  unfold tellOutcome logEntries
  induction elapsed.reverse with
  | nil => rfl
  | cons e es ih =>
      rw [List.foldr_cons, Job.advance_emit, ih, List.map_cons]
      rfl

/-- A service that is ready is called at once. -/
theorem oneshot_of_ready {S : Service ι} {i i' : ι} (h : S.pollReady i = (.ready, i')) (r : Request) :
    S.oneshot i r = (S.call i' r).1.lazily := by
  rw [oneshot]
  split <;> simp_all

/-- A service that is not ready yet is tried again at the next poll. -/
theorem oneshot_of_pending {S : Service ι} {i i' : ι} (h : S.pollReady i = (.pending, i')) (r : Request) :
    S.oneshot i r = .suspend 0 (S.oneshot i' r) := by
  rw [oneshot]
  split <;> simp_all

/-- A service that fails to become ready is not called. -/
theorem oneshot_of_failed {S : Service ι} {i i' : ι} {e : Error} (h : S.pollReady i = (.failed e, i'))
    (r : Request) : S.oneshot i r = .done (.error e) := by
  rw [oneshot]
  split <;> simp_all

end Service

end DeviceMessaging
