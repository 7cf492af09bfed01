import DeviceMessaging.Job

/-!
# `Service` — what answers requests

A service is used through instances. An instance is driven to readiness, which may take several
attempts and may fail, and is then called once; before the next call it has to be made ready again. A
clone of an instance is an instance of its own.

## Contents
- `Readiness`, `Submission`, `Service`.
- `Submission.lazily`: a call that is made only when its job is first polled.
- `Service.oneshot`: drives an instance to readiness and calls it.
- `Service.watched`: a service that reports, for each call, whether the instance was ready.
-/

namespace DeviceMessaging

/-- What an attempt to make an instance ready comes to. -/
inductive Readiness where
  | ready
  | pending
  | failed (error : Error)
  deriving DecidableEq

/-- What a call gives: the collaborators' calls that it makes at once, and the job that answers. -/
structure Submission where
  atOnce : List Call
  job : Job Reply

/-- The job that makes the call when it is first polled. -/
def Submission.lazily (s : Submission) : Job Reply := s.atOnce.foldr Job.invoke s.job

/-- The entries that a call writes at once, where `scope` are the spans that are open there. -/
def Submission.entries (s : Submission) (scope : List OpenSpan) : List Entry :=
  s.atOnce.map fun c => .called c (numbers scope)

/-- A service with instances of type `ι`. -/
structure Service (ι : Type) where
  /-- One attempt to make an instance ready, with the instance after it. -/
  pollReady : ι → Readiness × ι
  /-- A new instance of the same service. -/
  clone : ι → ι
  /-- A call of an instance, with the instance after it. -/
  call : ι → Request → Submission × ι
  /-- A bound on the attempts that stay pending one after the other. -/
  patience : ι → Nat
  patience_lt : ∀ i i', pollReady i = (.pending, i') → patience i' < patience i

namespace Service

variable {ι : Type}

/-- Drives an instance to readiness and calls it; a failure on the way is the answer. -/
def oneshot (S : Service ι) (i : ι) (r : Request) : Job Reply :=
  match _h : S.pollReady i with
  | (.ready, i') => (S.call i' r).1.lazily
  | (.failed e, _) => .done (.error e)
  | (.pending, i') => .suspend 0 (S.oneshot i' r)
termination_by S.patience i
decreasing_by exact S.patience_lt _ _ (by assumption)

/-- A service whose instances are always ready and answer by a function of the request. -/
def ofFunction (answer : Request → Job Reply) : Service Unit where
  pollReady i := (.ready, i)
  clone i := i
  call i r := (⟨[], answer r⟩, i)
  patience _ := 0
  patience_lt i i' h := by cases h

/-- The service that keeps, beside each instance, whether it was made ready since it came to be and
since its last call, and that reports each call with that mark. -/
def watched (S : Service ι) : Service (ι × Bool) where
  pollReady i :=
    let (readiness, j) := S.pollReady i.1
    (readiness, j, i.2 || readiness == .ready)
  clone i := (S.clone i.1, false)
  call i r :=
    let (s, j) := S.call i.1 r
    (⟨.service i.2 r :: s.atOnce, s.job⟩, j, false)
  patience i := S.patience i.1
  patience_lt i i' h := by
    have h1 : (S.pollReady i.1).1 = .pending := congrArg Prod.fst h
    have h2 : (S.pollReady i.1).2 = i'.1 := congrArg (fun x => x.2.1) h
    exact S.patience_lt i.1 i'.1 (by rw [← h1, ← h2])

end Service

end DeviceMessaging
