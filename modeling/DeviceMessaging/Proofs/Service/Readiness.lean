import DeviceMessaging.Proofs.Pool.Reported
import DeviceMessaging.Proofs.Service.Layers
import DeviceMessaging.Service.Usage

/-!
# `Proofs.Service.Readiness` — logging layers call instances that are ready

A layer takes the instance that was made ready along into the job of a call, leaves a clone behind, and calls
the instance when the job is first polled. To see which instances are called, and when, the service behind the
layers is watched: each call of an instance is reported with the mark whether the instance was made ready since
it came to be and since its last call. A user's run over the watched service is his run over the service itself
with these reports, so they say how often and on which instances the layers call.

Instances may share what their readiness depends on, and others may use it up meanwhile. So a run finds another
service with each move: the service as it is then.

## Contents
- `Usage.Occasion`, `Usage.runAmid`: runs amid changes of the service.
- `Usage.turns`, `Usage.log`, `Usage.asked`: what a user's moves do to the jobs, and the requests of his calls.
- `Usage.pool_runAmid`: the pool of a run.
- `Service.Drives`, with `exists_drives` and `Drives.oneshot`: driving an instance to readiness, and sending a
  request.
- `Usage.Marked`, with `Marked.step` and `Marked.turns`: a run and the run over the watched service.
- `Usage.CallsReady` and `Usage.callsReady`: the calls of a whole run.
-/

namespace DeviceMessaging

variable {ι : Type}

/-! ## The jobs of a run -/

namespace Usage

/-- A move, with the service as it is then. -/
abbrev Occasion (ι : Type) := Service ι × Move

section Turns

variable (tracing : Tracing)

/-- A run in which every move finds the service as it is then. -/
def runAmid (u : Usage ι) (occasions : List (Occasion ι)) : Usage ι :=
  occasions.foldl (fun u e => u.step e.1 tracing e.2) u

/-- A run over a service that does not change is one of these runs. -/
theorem run_eq_runAmid (S : Service ι) (u : Usage ι) (moves : List Move) :
    u.run S tracing moves = u.runAmid tracing (moves.map fun m => (S, m)) := by
  rw [run, runAmid, List.foldl_map]

/-- What a move does to the jobs, if it does something to them. -/
def turn? (S : Service ι) (u : Usage ι) : Move → Option (Pool.Turn Reply)
  | .pollReady _ => none
  | .clone _ => none
  | .call k r =>
    match u.instances[k]? with
    | some (i, true) => some (.take r (S.call i r).1.job)
    | _ => none
  | .job m => some (.move m)

/-- What a run does to the jobs. -/
def turns : Usage ι → List (Occasion ι) → List (Pool.Turn Reply)
  | _, [] => []
  | u, e :: es => (u.turn? e.1 e.2).toList ++ turns (u.step e.1 tracing e.2) es

/-- All that the jobs do in a run. -/
def log (u : Usage ι) (occasions : List (Occasion ι)) : List (Pool.Deed Reply) :=
  u.pool.history tracing (u.turns tracing occasions)

/-- The requests of the calls that are made in a run, in the order of their jobs. -/
def asked (u : Usage ι) (occasions : List (Occasion ι)) : List Request :=
  Pool.requests (u.turns tracing occasions)

section Steps

variable {S : Service ι} {tracing} {u : Usage ι} {k : Nat} {i : ι}

theorem step_pollReady {mayCall : Bool} (h : u.instances[k]? = some (i, mayCall)) :
    u.step S tracing (.pollReady k) =
      { u with instances := u.instances.set k ((S.pollReady i).2, mayCall || (S.pollReady i).1 == .ready) } := by
  simp only [step, h]

theorem step_clone {mayCall : Bool} (h : u.instances[k]? = some (i, mayCall)) :
    u.step S tracing (.clone k) = { u with instances := u.instances ++ [(S.clone i, false)] } := by
  simp only [step, h]

theorem step_call (h : u.instances[k]? = some (i, true)) (r : Request) :
    u.step S tracing (.call k r) =
        { instances := u.instances.set k ((S.call i r).2, false)
          pool := u.pool.add (S.call i r).1.job ((S.call i r).1.entries []) } ∧
      u.turn? S (.call k r) = some (.take r (S.call i r).1.job) := by
  constructor
  · simp only [step, h]
  · simp only [turn?, h]

/-- Nothing comes of a move that names no instance. -/
theorem step_of_none (h : u.instances[k]? = none) :
    u.step S tracing (.pollReady k) = u ∧ u.step S tracing (.clone k) = u := by
  constructor
  · simp only [step, h]
  · simp only [step, h]

/-- Nothing comes of a call of an instance that is not ready, or not there. -/
theorem step_call_of_not_ready (h : ∀ i, u.instances[k]? ≠ some (i, true)) (r : Request) :
    u.step S tracing (.call k r) = u ∧ u.turn? S (.call k r) = none := by
  match hu : u.instances[k]? with
  | none =>
      simp only [step, turn?, hu]
      exact ⟨trivial, trivial⟩
  | some (i, false) =>
      simp only [step, turn?, hu]
      exact ⟨trivial, trivial⟩
  | some (i, true) => exact absurd hu (h i)

/-- Making an instance ready, or trying to, leaves the jobs and the journal as they are. -/
theorem pool_pollReady (u : Usage ι) (k : Nat) : (u.step S tracing (.pollReady k)).pool = u.pool := by
  match h : u.instances[k]? with
  | none => rw [(step_of_none h).1]
  | some (i, mayCall) => rw [step_pollReady h]

end Steps

/-- What a move does to the pool, when a call does nothing before its job is polled. -/
theorem pool_step {S : Service ι} (hS : ∀ i r, (S.call i r).1.atOnce = []) (u : Usage ι) (m : Move) :
    (u.step S tracing m).pool = u.pool.afterTurns tracing (u.turn? S m).toList := by
  cases m with
  | job move => rfl
  | pollReady k => exact pool_pollReady u k
  | clone k =>
      match h : u.instances[k]? with
      | none =>
          rw [(step_of_none h).2]
          rfl
      | some (i, mayCall) =>
          rw [step_clone h]
          rfl
  | call k r =>
      by_cases h : ∃ i, u.instances[k]? = some (i, true)
      · obtain ⟨i, h⟩ := h
        obtain ⟨hstep, hturn⟩ := step_call (S := S) h r
        have hentries : (S.call i r).1.entries [] = [] := by
          rw [Submission.entries, hS]
          rfl
        rw [hstep, hturn, hentries]
        rfl
      · obtain ⟨hstep, hturn⟩ := step_call_of_not_ready (S := S) (fun i hi => h ⟨i, hi⟩) r
        rw [hstep, hturn]
        rfl

/-- **The pool of a run.** -/
theorem pool_runAmid {occasions : List (Occasion ι)}
    (h : ∀ e ∈ occasions, ∀ i r, (e.1.call i r).1.atOnce = []) (u : Usage ι) :
    (u.runAmid tracing occasions).pool = u.pool.afterTurns tracing (u.turns tracing occasions) := by
  induction occasions generalizing u with
  | nil => rfl
  | cons e es ih =>
      obtain ⟨he, hes⟩ := List.forall_mem_cons.mp h
      rw [runAmid, List.foldl_cons, ← runAmid, ih hes, pool_step tracing he, turns, Pool.afterTurns,
        Pool.afterTurns, Pool.afterTurns, List.foldl_append]

end Turns

end Usage

/-! ## Calls behind layers -/

namespace Service

variable (S : Service ι)

theorem pollReady_watched (i : ι) (wasReady : Bool) :
    S.watched.pollReady (i, wasReady) =
      ((S.pollReady i).1, (S.pollReady i).2, wasReady || (S.pollReady i).1 == .ready) := rfl

/-- A call of a watched instance behind layers reports the mark of that instance, and then is the call. -/
theorem lazily_watched_layered (layers : List String) (i : ι) (isReady : Bool) (r : Request) :
    ((S.watched.layered layers).call (i, isReady) r).1.lazily =
      .invoke (.service isReady r) ((S.layered layers).call i r).1.lazily := by
  rw [lazily_layered, lazily_layered]
  rfl

section Layered

variable (layer : String) (layers : List String)

/-- A layer leaves a clone behind. -/
theorem instance_after_call (i : ι) (r : Request) :
    ((S.layered (layer :: layers)).call i r).2 = S.clone i := by
  show (S.layered layers).clone i = S.clone i
  rw [clone_layered]

/-- A call of a ready instance reports that. -/
theorem reported_call (i : ι) (r : Request) :
    Job.Reported (· = .service true r) 0 ((S.layered (layer :: layers)).call i r).1.job
      ((S.watched.layered (layer :: layers)).call (i, true) r).1.job := by
  have hwatched : ((S.watched.layered (layer :: layers)).call (i, true) r).1.job =
      .invoke (.service true r) ((S.layered (layer :: layers)).call i r).1.job :=
    S.lazily_watched_layered (layer :: layers) i true r
  rw [hwatched]
  exact .call rfl

end Layered

/-! ## Driving an instance to readiness -/

/-- Driving the instance to readiness stays pending `wait` times, and then comes to a ready instance or to a
failure. -/
inductive Drives : ι → Nat → Except Error ι → Prop where
  | ready {i j : ι} (h : S.pollReady i = (.ready, j)) : Drives i 0 (.ok j)
  | failed {i j : ι} {e : Error} (h : S.pollReady i = (.failed e, j)) : Drives i 0 (.error e)
  | pending {i j : ι} {wait : Nat} {outcome : Except Error ι} (h : S.pollReady i = (.pending, j))
      (hj : Drives j wait outcome) : Drives i (wait + 1) outcome

/-- Driving an instance to readiness comes to something. -/
theorem exists_drives (i : ι) : ∃ wait outcome, S.Drives i wait outcome := by
  -- the attempts that stay pending are bounded by the patience of the instance
  induction hpatience : S.patience i using Nat.strongRecOn generalizing i with
  | ind patience ih =>
      match hpoll : S.pollReady i with
      | (.ready, j) => exact ⟨0, .ok j, .ready hpoll⟩
      | (.failed e, j) => exact ⟨0, .error e, .failed hpoll⟩
      | (.pending, j) =>
          have hless : S.patience j < patience := hpatience ▸ S.patience_lt i j hpoll
          obtain ⟨wait, outcome, hj⟩ := ih _ hless j rfl
          exact ⟨wait + 1, outcome, .pending hpoll hj⟩

variable {S}

/-- **Sending a request** drives the instance to readiness. If that succeeds the ready instance is called once,
and reports it; if it fails nobody is called, and the failure is the reply. -/
theorem Drives.oneshot {i : ι} {wait : Nat} {outcome : Except Error ι} (h : S.Drives i wait outcome)
    (layers : List String) (isReady : Bool) (r : Request) :
    match outcome with
    | .ok _ => Job.Reported (· = .service true r) wait ((S.layered layers).oneshot i r)
        ((S.watched.layered layers).oneshot (i, isReady) r)
    | .error e => (S.watched.layered layers).oneshot (i, isReady) r = (S.layered layers).oneshot i r ∧
        ((S.layered layers).oneshot i r).Silent (.error e) := by
  have hwatched : ∀ (i : ι) (isReady : Bool), (S.watched.layered layers).pollReady (i, isReady) =
      ((S.pollReady i).1, (S.pollReady i).2, isReady || (S.pollReady i).1 == .ready) := by
    intro i isReady
    rw [pollReady_layered, pollReady_watched]
  have hlayered : ∀ i, (S.layered layers).pollReady i = S.pollReady i := by
    intro i
    rw [pollReady_layered]
  induction h generalizing isReady with
  | @ready i j hpoll =>
      have hpoll' := hwatched i isReady
      rw [hpoll] at hpoll'
      have hmark : (isReady || Readiness.ready == .ready) = true := Bool.or_true isReady
      rw [oneshot_of_ready ((hlayered i).trans hpoll), oneshot_of_ready hpoll', hmark,
        lazily_watched_layered]
      exact .call rfl
  | @failed i j e hpoll =>
      have hpoll' := hwatched i isReady
      rw [hpoll] at hpoll'
      rw [oneshot_of_failed ((hlayered i).trans hpoll), oneshot_of_failed hpoll']
      exact ⟨rfl, rfl⟩
  | @pending i j wait outcome hpoll hj ih =>
      have hpoll' := hwatched i isReady
      rw [hpoll] at hpoll'
      rw [oneshot_of_pending ((hlayered i).trans hpoll), oneshot_of_pending hpoll']
      have hlater := ih (isReady || Readiness.pending == .ready)
      cases outcome with
      | ok j => exact .suspend hlater
      | error e => exact ⟨congrArg (Job.suspend 0) hlater.1, hlater.2⟩

end Service

/-! ## A run and the run over the watched service -/

namespace Usage

/-- The second user holds the instances of the first, watched; the mark of each says whether it may be
called. -/
def Marked (u : Usage ι) (w : Usage (ι × Bool)) : Prop :=
  w.instances = u.instances.map fun x => ((x.1, x.2), x.2)

/-- The occasions of a run over services behind layers. -/
def behind (layers : List String) (occasions : List (Occasion ι)) : List (Occasion ι) :=
  occasions.map fun e => (e.1.layered layers, e.2)

/-- The same occasions, when the services behind the layers are watched. -/
def watchedBehind (layers : List String) (occasions : List (Occasion ι)) : List (Occasion (ι × Bool)) :=
  occasions.map fun e => (e.1.watched.layered layers, e.2)

section Marked

variable (tracing : Tracing) (layer : String) (layers : List String) {u : Usage ι}
  {w : Usage (ι × Bool)}

theorem Marked.getElem?_eq (h : Marked u w) (k : Nat) :
    w.instances[k]? = (u.instances[k]?).map fun x => ((x.1, x.2), x.2) := by
  rw [h, List.getElem?_map]

/-- **One move** does the same to the jobs of both users, but for the report of a call, and leaves the marks
as they should be. -/
theorem Marked.step (h : Marked u w) (S : Service ι) (m : Move) :
    Marked (u.step (S.layered (layer :: layers)) tracing m)
        (w.step (S.watched.layered (layer :: layers)) tracing m) ∧
      Pool.TurnsCompare (u.turn? (S.layered (layer :: layers)) m).toList
        (w.turn? (S.watched.layered (layer :: layers)) m).toList := by
  cases m with
  | job move => exact ⟨h, .move move .nil⟩
  | pollReady k =>
      refine ⟨?_, .nil⟩
      have hk := h.getElem?_eq k
      match hu : u.instances[k]? with
      | none =>
          rw [hu] at hk
          rw [(step_of_none hu).1, (step_of_none hk).1]
          exact h
      | some (i, mayCall) =>
          rw [hu] at hk
          rw [step_pollReady hu, step_pollReady hk]
          unfold Marked
          rw [List.map_set, ← h, Service.pollReady_layered, Service.pollReady_layered,
            Service.pollReady_watched]
  | clone k =>
      refine ⟨?_, .nil⟩
      have hk := h.getElem?_eq k
      match hu : u.instances[k]? with
      | none =>
          rw [hu] at hk
          rw [(step_of_none hu).2, (step_of_none hk).2]
          exact h
      | some (i, mayCall) =>
          rw [hu] at hk
          rw [step_clone hu, step_clone hk]
          unfold Marked
          rw [List.map_append, ← h, Service.clone_layered, Service.clone_layered]
          rfl
  | call k r =>
      have hk := h.getElem?_eq k
      by_cases hready : ∃ i, u.instances[k]? = some (i, true)
      · obtain ⟨i, hu⟩ := hready
        rw [hu] at hk
        obtain ⟨hstep, hturn⟩ := step_call hu r
        obtain ⟨hstep', hturn'⟩ := step_call hk r
        rw [hstep, hstep', hturn, hturn']
        refine ⟨?_, .take (S.reported_call layer layers i r) .nil⟩
        unfold Marked
        rw [List.map_set, ← h, Service.instance_after_call, Service.instance_after_call]
        rfl
      · have hready' : ∀ i, w.instances[k]? ≠ some (i, true) := by
          intro i hi
          rw [hk, Option.map_eq_some_iff] at hi
          obtain ⟨x, hx, hmark⟩ := hi
          have hmayCall : x.2 = true := congrArg Prod.snd hmark
          exact hready ⟨x.1, hmayCall ▸ hx⟩
        obtain ⟨hstep, hturn⟩ := step_call_of_not_ready (fun i hi => hready ⟨i, hi⟩) r
        obtain ⟨hstep', hturn'⟩ := step_call_of_not_ready hready' r
        rw [hstep, hstep', hturn, hturn']
        exact ⟨h, .nil⟩

/-- **A whole run** does the same to the jobs of both users, but for the reports of calls. -/
theorem Marked.turns (h : Marked u w) (occasions : List (Occasion ι)) :
    Pool.TurnsCompare (u.turns tracing (behind (layer :: layers) occasions))
      (w.turns tracing (watchedBehind (layer :: layers) occasions)) := by
  induction occasions generalizing u w with
  | nil => exact .nil
  | cons e es ih =>
      obtain ⟨hstep, hturn⟩ := h.step tracing layer layers e.1 e.2
      exact hturn.append (ih hstep)

end Marked

end Usage

/-! ## The calls of a run -/

namespace Usage

section Runs

variable (layers : List String) (tracing : Tracing) (i : ι) (occasions : List (Occasion ι))

/-- What the jobs do in a run of a user who begins with the instance `i` behind the layers. -/
def doneIn : List (Pool.Deed Reply) := (ofInstance i).log tracing (behind layers occasions)

/-- What the jobs do in the same run, when the service behind the layers is watched. -/
def watchedIn : List (Pool.Deed Reply) :=
  (ofInstance (i, false)).log tracing (watchedBehind layers occasions)

/-- The pool after the run over the watched service. -/
def watchedPool : Pool Reply :=
  ((ofInstance (i, false)).runAmid tracing (watchedBehind layers occasions)).pool

/-- The requests of the user's calls. -/
def askedIn : List Request := (ofInstance i).asked tracing (behind layers occasions)

/-- In a run every job that is polled calls the service once, and on a ready instance; the run is compared with
the one over the watched service, which reports the calls. -/
structure CallsReady : Prop where
  /-- There is a job for each call of the user. -/
  jobs : (watchedPool layers tracing i occasions).slots.length = (askedIn layers tracing i occasions).length
  /-- The journal is what the jobs have done. -/
  journal : (watchedPool layers tracing i occasions).journal =
    (watchedIn layers tracing i occasions).flatMap Pool.Deed.entries
  /-- Each job calls a ready instance at its first poll, with the request that it is for, and never again. -/
  once : ∀ k r, (askedIn layers tracing i occasions)[k]? = some r →
    Pool.Compared (· = .service true r) 0 (Pool.own k (doneIn layers tracing i occasions))
      (Pool.own k (watchedIn layers tracing i occasions))
  /-- A job that is never polled does nothing at all, and in particular calls nobody. -/
  unpolled : ∀ k, Pool.polls (Pool.own k (watchedIn layers tracing i occasions)) = 0 →
    (Pool.own k (watchedIn layers tracing i occasions)).flatMap Pool.Deed.entries = []
  /-- No call is reported on an instance that is not ready, but by the service itself. -/
  ready : ∀ isReady r scope,
    .called (.service isReady r) scope ∈ (watchedPool layers tracing i occasions).journal →
      isReady = true ∨
        ∃ d ∈ doneIn layers tracing i occasions, .called (.service isReady r) scope ∈ d.entries

end Runs

/-- **Every run behind layers calls ready instances**, once for each job that is polled. -/
theorem callsReady (layer : String) (layers : List String) (tracing : Tracing) (i : ι)
    (occasions : List (Occasion ι)) : CallsReady (layer :: layers) tracing i occasions := by
  have hmarked : Marked (ofInstance i) (ofInstance (i, false)) := rfl
  have hturns := hmarked.turns tracing layer layers occasions
  have hpaired : Pool.Paired (α := Reply) (Pool.ofJobs [] []) (Pool.ofJobs [] []) :=
    ⟨rfl, rfl, fun k => .same _⟩
  -- a layer does nothing before its job is polled
  have hlazy : ∀ e ∈ watchedBehind (layer :: layers) occasions, ∀ i r, (e.1.call i r).1.atOnce = [] := by
    intro e he i r
    obtain ⟨e, -, rfl⟩ := List.mem_map.mp he
    rfl
  have hpool : watchedPool (layer :: layers) tracing i occasions = _ :=
    pool_runAmid tracing hlazy (ofInstance (i, false))
  have honce : ∀ k r, (askedIn (layer :: layers) tracing i occasions)[k]? = some r →
      Pool.Compared (· = .service true r) 0 (Pool.own k (doneIn (layer :: layers) tracing i occasions))
        (Pool.own k (watchedIn (layer :: layers) tracing i occasions)) := fun k r hr =>
    hpaired.compared_of_taken hturns (Nat.zero_le k) hr
  have hjournal : (watchedPool (layer :: layers) tracing i occasions).journal =
      (watchedIn (layer :: layers) tracing i occasions).flatMap Pool.Deed.entries := by
    rw [hpool, Pool.journal_afterTurns]
    rfl
  refine ⟨?jobs, hjournal, honce, ?unpolled, ?ready⟩
  case jobs =>
    rw [hpool, Pool.length_afterTurns, hturns.requests_eq]
    exact Nat.zero_add _
  case unpolled =>
    intro k hpolls
    exact Pool.entries_of_unpolled tracing (fun r hr => by cases hr) hpolls
  case ready =>
    intro isReady r scope he
    rw [hjournal] at he
    obtain ⟨d, hd, he⟩ := List.mem_flatMap.mp he
    -- the entry was written by one of the jobs, which is for one of the requests
    have hslot : d.slot < (askedIn (layer :: layers) tracing i occasions).length := by
      have hlt : d.slot < 0 + (Pool.requests _).length := Pool.slot_of_history tracing hd he
      rw [hturns.requests_eq, Nat.zero_add] at hlt
      exact hlt
    have hown : .called (.service isReady r) scope ∈
        (Pool.own d.slot (watchedIn (layer :: layers) tracing i occasions)).flatMap Pool.Deed.entries :=
      List.mem_flatMap.mpr ⟨d, List.mem_filter.mpr ⟨hd, decide_eq_true rfl⟩, he⟩
    rcases (honce d.slot _ (List.getElem?_eq_getElem hslot)).mem hown with ⟨call, scope', rfl, hentry⟩ | hplain
    · cases hentry
      exact .inl rfl
    · obtain ⟨d', hd', he'⟩ := List.mem_flatMap.mp hplain
      exact .inr ⟨d', (List.mem_filter.mp hd').1, he'⟩

/-- Only the calls of ready instances are made: not the one before the instance was made ready, and not the one
right behind another call. -/
example (answer : Request → Job Reply) (tracing : Tracing) (r s : Request) :
    askedIn ["1", "2"] tracing () ([.call 0 r, .pollReady 0, .call 0 s, .call 0 r].map fun m =>
      (Service.ofFunction answer, m)) = [s] := rfl

end Usage

end DeviceMessaging
