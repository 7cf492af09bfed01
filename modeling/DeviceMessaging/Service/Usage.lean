import DeviceMessaging.Pool
import DeviceMessaging.Service.Basic

/-!
# `Service.Usage` — a user of a service and the calls that are under way

A user holds instances, makes them ready, clones them and calls them, and polls or drops the jobs that
the calls gave, in any order and any number of them at a time. A call is made only on an instance whose
last attempt at readiness succeeded.

## Contents
- `Usage`, `Usage.ofInstance`.
- `Usage.Move`, `Usage.step`, `Usage.run`.
-/

namespace DeviceMessaging

/-- The instances that a user holds, each with the mark whether it may be called, and the jobs of the
calls made so far. -/
structure Usage (ι : Type) where
  instances : List (ι × Bool)
  pool : Pool Reply

namespace Usage

variable {ι : Type}

/-- What a user does next. -/
inductive Move where
  | pollReady (held : Nat)
  | clone (held : Nat)
  | call (held : Nat) (request : Request)
  | job (move : Pool.Move)

/-- A user of one instance. -/
def ofInstance (i : ι) : Usage ι := ⟨[(i, false)], Pool.ofJobs [] []⟩

/-- One move; a move that names no instance, or calls one that is not ready, does nothing. -/
def step (S : Service ι) (tracing : Tracing) (u : Usage ι) : Move → Usage ι
  | .pollReady k =>
    match u.instances[k]? with
    | some (i, mayCall) =>
      let (readiness, i') := S.pollReady i
      { u with instances := u.instances.set k (i', mayCall || readiness == .ready) }
    | none => u
  | .clone k =>
    match u.instances[k]? with
    | some (i, _) => { u with instances := u.instances ++ [(S.clone i, false)] }
    | none => u
  | .call k r =>
    match u.instances[k]? with
    | some (i, true) =>
      let (submission, i') := S.call i r
      { instances := u.instances.set k (i', false)
        pool := u.pool.add submission.job (submission.entries []) }
    | _ => u
  | .job move => { u with pool := (u.pool.step tracing move).2 }

/-- A sequence of moves. -/
def run (S : Service ι) (tracing : Tracing) (u : Usage ι) (moves : List Move) : Usage ι :=
  moves.foldl (step S tracing) u

end Usage

end DeviceMessaging
