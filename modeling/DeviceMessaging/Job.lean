import DeviceMessaging.Journal

/-!
# `Job` — computations that can be suspended and dropped

A job does its work in pieces: each poll runs it up to its next suspension or to its end. Between two
polls the spans that it has opened stay open, but are current only while it is polled. A job that is
dropped closes them.

## Contents
- `Job`, a monad whose steps are the entries of a journal; `Job.delayed` suspends it, and `Job.inSpan`
  runs it in a span of its own.
- `Answer`: a collaborator's answer after a number of suspensions.
- `Tracing`: the propagator and the ids in use; `Tracing.forHeaders`.
- `Running`, `Progress`, `Job.run`: how jobs run, with `Job.run_bind`; `Job.advance` up to the next
  suspension, and `Job.complete` up to the end, with `complete_delayed`.
- `Running.poll`, `Running.drop`.
-/

namespace DeviceMessaging

/-! ## Jobs -/

/-- A computation in steps, with a result of type `α`. -/
inductive Job (α : Type) where
  /-- The computation has ended. -/
  | done (result : α)
  /-- The computation cannot go on before the next poll, and `further` polls come too early after that. -/
  | suspend (further : Nat) (rest : Job α)
  /-- An event, in the innermost span. -/
  | emit (event : Event) (rest : Job α)
  /-- A value recorded on the innermost span. -/
  | record (name value : String) (rest : Job α)
  /-- A call of a collaborator. -/
  | invoke (call : Call) (rest : Job α)
  /-- A new innermost span. -/
  | openSpan (spec : SpanSpec) (rest : Job α)
  /-- The innermost span of the job closes. -/
  | closeSpan (rest : Job α)
  /-- The headers by which another process continues the trace of the innermost span. -/
  | withHeaders (rest : Headers → Job α)

namespace Job

variable {α β γ : Type}

/-- Goes on with `k` where `t` ends. -/
def bind : Job α → (α → Job β) → Job β
  | done a, k => k a
  | suspend n t, k => suspend n (t.bind k)
  | emit e t, k => emit e (t.bind k)
  | record n v t, k => record n v (t.bind k)
  | invoke c t, k => invoke c (t.bind k)
  | openSpan s t, k => openSpan s (t.bind k)
  | closeSpan t, k => closeSpan (t.bind k)
  | withHeaders f, k => withHeaders fun h => (f h).bind k

instance : Monad Job where
  pure := done
  bind := bind

theorem pure_eq (a : α) : (pure a : Job α) = done a := rfl

theorem bind_eq (t : Job α) (k : α → Job β) : (t >>= k) = t.bind k := rfl

theorem bind_done (t : Job α) : t.bind done = t := by
  induction t with
  | done a => rfl
  | suspend n t ih => simp [bind, ih]
  | emit e t ih => simp [bind, ih]
  | record n v t ih => simp [bind, ih]
  | invoke c t ih => simp [bind, ih]
  | openSpan s t ih => simp [bind, ih]
  | closeSpan t ih => simp [bind, ih]
  | withHeaders f ih => simp [bind, ih]

theorem bind_assoc (t : Job α) (k : α → Job β) (l : β → Job γ) :
    (t.bind k).bind l = t.bind fun a => (k a).bind l := by
  induction t with
  | done a => rfl
  | suspend n t ih => simp [bind, ih]
  | emit e t ih => simp [bind, ih]
  | record n v t ih => simp [bind, ih]
  | invoke c t ih => simp [bind, ih]
  | openSpan s t ih => simp [bind, ih]
  | closeSpan t ih => simp [bind, ih]
  | withHeaders f ih => simp [bind, ih]

instance : LawfulMonad Job :=
  LawfulMonad.mk' Job (fun t => bind_done t) (fun _ _ => rfl) (fun t k l => bind_assoc t k l)

/-- An event on its own. -/
def event (e : Event) : Job Unit := emit e (done ())

/-- A recorded value on its own. -/
def note (name value : String) : Job Unit := record name value (done ())

/-- A call on its own. -/
def call (c : Call) : Job Unit := invoke c (done ())

/-- Goes on with `t` after `n` suspensions. -/
def delayed (t : Job α) : Nat → Job α
  | 0 => t
  | n + 1 => suspend n t

theorem bind_delayed (t : Job α) (n : Nat) (k : α → Job β) :
    (t.delayed n).bind k = (t.bind k).delayed n := by
  cases n <;> rfl

/-- Suspensions, `n` of them. -/
def pause (n : Nat) : Job Unit := delayed (done ()) n

/-- Runs `body` in a span of its own, which closes where `body` ends. -/
def inSpan (spec : SpanSpec) (body : Job α) : Job α :=
  openSpan spec (body.bind fun a => closeSpan (done a))

end Job

/-! ## Answers of collaborators -/

/-- What a collaborator answers, after a number of suspensions. -/
structure Answer (α : Type) where
  delay : Nat
  outcome : Except Error α

/-- Waits for an answer. -/
def Answer.await {α : Type} (a : Answer α) : Job (Except Error α) := do
  Job.pause a.delay
  return a.outcome

/-! ## Running -/

/-- The propagator and the ids in use. -/
structure Tracing where
  propagator : Propagator
  ids : IdSource

/-- Tracing under which no span gets the id of one that the headers of some requests name. -/
def Tracing.forHeaders (propagator : Propagator) (headers : List (Option Headers)) : Tracing where
  propagator
  ids := .apartFrom (headers.filterMap propagator.parent?)

/-- The parent context of a new span. -/
def Tracing.parent? (tracing : Tracing) (scope : List OpenSpan) :
    ParentSource → Option SpanContext
  | .headers h => tracing.propagator.parent? h
  | .current => scope.head?.map OpenSpan.context

/-- A job under way, with the spans that it holds open, innermost first. -/
structure Running (α : Type) where
  job : Job α
  held : List OpenSpan

/-- How far a poll brings a job. -/
inductive Progress (α : Type) where
  | pending (rest : Running α)
  | finished (result : α)

/-- The entries that close spans. -/
def closings (held : List OpenSpan) : List Entry := held.map fun s => .closed s.number

/-- The numbers of open spans. -/
def numbers (scope : List OpenSpan) : List Nat := scope.map OpenSpan.number

/-- Runs a job where `ambient` are the spans that are open around it, `held` those that it holds open
itself, and `next` is the number of the next span. Gives the entries that the job writes, and an outcome.
`ended` says what happens at the end of the job, given its result; `suspended` says what happens at a
suspension, given what is left of the job for the next poll, and the choice of going on until the job
itself does something. -/
def Job.run {α ω : Type} (tracing : Tracing) (ambient : List OpenSpan)
    (ended : α → List OpenSpan → Nat → List Entry × ω)
    (suspended : Running α → (Unit → List Entry × ω) → List Entry × ω) :
    Job α → List OpenSpan → Nat → List Entry × ω
  | .done a, held, next => ended a held next
  | .suspend further t, held, next =>
    suspended ⟨t.delayed further, held⟩ fun _ => t.run tracing ambient ended suspended held next
  | .emit e t, held, next =>
    let (es, o) := t.run tracing ambient ended suspended held next
    (.event e (numbers (held ++ ambient)) :: es, o)
  | .record n v t, held, next =>
    let (es, o) := t.run tracing ambient ended suspended held next
    match held ++ ambient with
    | [] => (es, o)
    | s :: _ => (.recorded s.number n v :: es, o)
  | .invoke c t, held, next =>
    let (es, o) := t.run tracing ambient ended suspended held next
    (.called c (numbers (held ++ ambient)) :: es, o)
  | .openSpan spec t, held, next =>
    let parent := tracing.parent? (held ++ ambient) spec.parent
    let span : OpenSpan := ⟨next, tracing.ids.context next parent⟩
    let (es, o) := t.run tracing ambient ended suspended (span :: held) (next + 1)
    (.opened span spec parent :: es, o)
  | .closeSpan t, held, next =>
    match held with
    | [] => t.run tracing ambient ended suspended [] next
    | s :: outer =>
      let (es, o) := t.run tracing ambient ended suspended outer next
      (.closed s.number :: es, o)
  | .withHeaders f, held, next =>
    let current := (held ++ ambient).head?.map OpenSpan.context
    (f (tracing.propagator.inject current)).run tracing ambient ended suspended held next

/-- A job that goes on with `k` runs up to its first end, and there runs `k`. -/
theorem Job.run_bind {α β ω : Type} (tracing : Tracing) (ambient : List OpenSpan)
    (ended : β → List OpenSpan → Nat → List Entry × ω)
    (suspended : Running β → (Unit → List Entry × ω) → List Entry × ω)
    (t : Job α) (k : α → Job β) (held : List OpenSpan) (next : Nat) :
    (t.bind k).run tracing ambient ended suspended held next =
      t.run tracing ambient (fun a held next => (k a).run tracing ambient ended suspended held next)
        (fun r goOn => suspended ⟨r.job.bind k, r.held⟩ goOn) held next := by
  induction t generalizing held next with
  | done a => rfl
  | suspend n t ih => simp [bind, run, bind_delayed, ih]
  | emit e t ih => simp [bind, run, ih]
  | record n v t ih => simp [bind, run, ih]
  | invoke c t ih => simp [bind, run, ih]
  | openSpan s t ih => simp [bind, run, ih]
  | closeSpan t ih => cases held <;> simp [bind, run, ih]
  | withHeaders f ih => simp [bind, run, ih]

/-- Runs a job up to its next suspension or its end. Spans that are open at the end close there. -/
def Job.advance {α : Type} (tracing : Tracing) (ambient : List OpenSpan) :
    Job α → List OpenSpan → Nat → List Entry × Progress α :=
  Job.run tracing ambient (fun a held _ => (closings held, .finished a))
    fun rest _ => ([], .pending rest)

/-- Polls a job until it ends, every time among the same ambient spans. -/
def Job.complete {α : Type} (tracing : Tracing) (ambient : List OpenSpan) :
    Job α → List OpenSpan → Nat → List Entry × α :=
  Job.run tracing ambient (fun a held _ => (closings held, a)) fun _ goOn => goOn ()

/-- How long a job is suspended makes no difference to what it does up to its end. -/
theorem Job.complete_delayed {α : Type} (tracing : Tracing) (ambient : List OpenSpan) (t : Job α)
    (n : Nat) : (t.delayed n).complete tracing ambient = t.complete tracing ambient := by
  cases n <;> rfl

/-- A job that has not been polled yet. -/
def Job.start {α : Type} (t : Job α) : Running α := ⟨t, []⟩

namespace Running

variable {α : Type}

/-- Polls a job once. -/
def poll (tracing : Tracing) (ambient : List OpenSpan) (next : Nat) (r : Running α) :
    List Entry × Progress α :=
  r.job.advance tracing ambient r.held next

/-- Drops a job: the spans that it holds close. -/
def drop (r : Running α) : List Entry := closings r.held

end Running

end DeviceMessaging
