import DeviceMessaging.Job

/-!
# `Pool` — several jobs polled and dropped in any order

A pool holds jobs in slots and one journal for all of them. A schedule is any sequence of polls and
drops; a slot that has ended, or was dropped, stays empty.

## Contents
- `Pool`, `Pool.ofJobs`, `Pool.add`, `Pool.unfinished`.
- `Pool.Move`, `Pool.Outcome`, `Pool.step`.
- `Pool.run`: a whole schedule.
-/

namespace DeviceMessaging

/-- Jobs in slots, and the journal of what they did. -/
structure Pool (α : Type) where
  slots : List (Option (Running α))
  journal : Journal

/-- What is done to a slot. -/
inductive Pool.Move where
  | poll (slot : Nat)
  | drop (slot : Nat)

/-- What comes of it. -/
inductive Pool.Outcome (α : Type) where
  | pending
  | finished (result : α)
  | dropped
  /-- The slot was empty already. -/
  | over
  /-- There is no such slot. -/
  | noSlot

namespace Pool

variable {α : Type}

/-- A pool of jobs of which none has been polled. -/
def ofJobs (jobs : List (Job α)) (journal : Journal) : Pool α :=
  ⟨jobs.map fun t => some t.start, journal⟩

/-- The pool with one more job, with the entries written when it was made. -/
def add (p : Pool α) (job : Job α) (entries : List Entry) : Pool α :=
  ⟨p.slots ++ [some job.start], p.journal ++ entries⟩

/-- The slots that hold a job. -/
def unfinished (p : Pool α) : List Nat :=
  (List.range p.slots.length).filter fun i => (p.slots[i]?.join).isSome

/-- The pool after slot `i` changed, with the entries written meanwhile. -/
def put (p : Pool α) (i : Nat) (slot : Option (Running α)) (entries : List Entry) : Pool α :=
  ⟨p.slots.set i slot, p.journal ++ entries⟩

/-- One move. -/
def step (tracing : Tracing) (p : Pool α) (move : Move) : Outcome α × Pool α :=
  match move with
  | .poll i =>
    match p.slots[i]? with
    | none => (.noSlot, p)
    | some none => (.over, p)
    | some (some r) =>
      match r.poll tracing [] p.journal.spansOpened with
      | (entries, .pending rest) => (.pending, p.put i (some rest) entries)
      | (entries, .finished a) => (.finished a, p.put i none entries)
  | .drop i =>
    match p.slots[i]? with
    | none => (.noSlot, p)
    | some none => (.over, p)
    | some (some r) => (.dropped, p.put i none r.drop)

/-- A whole schedule, with what comes of each move and the pool after it. -/
def run (tracing : Tracing) : Pool α → List Move → List (Outcome α × Pool α)
  | _, [] => []
  | p, move :: moves =>
    let r := p.step tracing move
    r :: run tracing r.2 moves

end Pool

end DeviceMessaging
