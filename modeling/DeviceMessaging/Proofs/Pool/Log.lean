import DeviceMessaging.Pool
import DeviceMessaging.Proofs.Journal

/-!
# `Proofs.Pool.Log` — who did what in a pool

The journal of a pool does not say on whose behalf an entry was written. The log of a schedule does: it
lists the moves one by one, each with its slot, its outcome and the entries that it wrote.

## Contents
- `getElem?_append_of_some`, `getElem?_concat_eq_some`: what is in a list that grows.
- `Pool.Move.slot`, `Pool.Move.onto`: moves and their slots.
- `Running.move`: what a move does to a job, with `entries_move_poll` and `move_poll_eq_some_iff`.
- `Pool.step_of_held`, `step_of_over`, `step_of_noSlot`: what a move does to a pool.
- `Pool.Deed`, `Pool.deed`, `Pool.log`, `Pool.after`, with `journal_after`.
- `Pool.own`, `Pool.share`: the part of one slot in a log and in a schedule.
- `Pool.Sight`, `Pool.sight`: all that can be seen of a slot.
-/

namespace DeviceMessaging

/-! ## Lists that grow -/

section Lists

variable {β : Type} {l : List β} {i : Nat} {x y : β}

/-- What is in a list stays there when the list gets longer. -/
theorem getElem?_append_of_some (h : l[i]? = some x) (more : List β) : (l ++ more)[i]? = some x := by
  obtain ⟨hlt, -⟩ := List.getElem?_eq_some_iff.mp h
  rw [List.getElem?_append_left hlt, h]

/-- One more at the end is all that is new. -/
theorem getElem?_concat_eq_some (h : (l ++ [y])[i]? = some x) : l[i]? = some x ∨ i = l.length ∧ y = x := by
  rcases Nat.lt_trichotomy i l.length with hlt | rfl | hgt
  · rw [List.getElem?_append_left hlt] at h
    exact .inl h
  · rw [List.getElem?_concat_length] at h
    exact .inr ⟨rfl, Option.some.inj h⟩
  · have hbeyond : (l ++ [y]).length ≤ i := by
      rw [List.length_append, List.length_singleton]
      omega
    rw [List.getElem?_eq_none hbeyond] at h
    cases h

end Lists

variable {α : Type} (tracing : Tracing)

/-! ## Moves -/

namespace Pool.Move

/-- The slot that a move is about. -/
def slot : Move → Nat
  | poll i => i
  | drop i => i

/-- The same move of another slot. -/
def onto (i : Nat) : Move → Move
  | poll _ => poll i
  | drop _ => drop i

@[simp] theorem slot_onto (i : Nat) (m : Move) : (m.onto i).slot = i := by
  cases m <;> rfl

end Pool.Move

/-- What a move does to the job in its slot: the outcome, what is left in the slot, and the entries. -/
def Running.move (r : Running α) (next : Nat) :
    Pool.Move → Pool.Outcome α × Option (Running α) × List Entry
  | .poll _ =>
    match r.poll tracing [] next with
    | (entries, .pending rest) => (.pending, some rest, entries)
    | (entries, .finished a) => (.finished a, none, entries)
  | .drop _ => (.dropped, none, r.drop)

@[simp] theorem Running.move_onto (r : Running α) (next i : Nat) (m : Pool.Move) :
    r.move tracing next (m.onto i) = r.move tracing next m := by
  cases m <;> rfl

/-- A poll writes what the job in the slot writes. -/
theorem Running.entries_move_poll (r : Running α) (next i : Nat) :
    (r.move tracing next (.poll i)).2.2 = (r.job.advance tracing [] r.held next).1 := by
  simp only [move, poll]
  cases r.job.advance tracing [] r.held next with
  | mk entries progress => cases progress <;> rfl

/-- A poll leaves the job that the job in the slot leaves. -/
theorem Running.move_poll_eq_some_iff {r rest : Running α} {next i : Nat} :
    (r.move tracing next (.poll i)).2.1 = some rest ↔
      (r.job.advance tracing [] r.held next).2 = .pending rest := by
  simp only [move, poll]
  cases r.job.advance tracing [] r.held next with
  | mk entries progress => cases progress <;> simp

namespace Pool

theorem slots_put_self {p : Pool α} {i : Nat} {old : Option (Running α)} (h : p.slots[i]? = some old)
    (slot : Option (Running α)) (entries : List Entry) : (p.put i slot entries).slots[i]? = some slot := by
  obtain ⟨hlt, -⟩ := List.getElem?_eq_some_iff.mp h
  simp [put, hlt]

theorem slots_put_of_ne {p : Pool α} {i j : Nat} (h : j ≠ i) (slot : Option (Running α))
    (entries : List Entry) : (p.put i slot entries).slots[j]? = p.slots[j]? := by
  simp [put, h.symm]

@[simp] theorem spansOpened_put (p : Pool α) (i : Nat) (slot : Option (Running α))
    (entries : List Entry) :
    (p.put i slot entries).journal.spansOpened =
      p.journal.spansOpened + Journal.spansOpened entries :=
  Journal.spansOpened_append p.journal entries

/-- A move of a slot that holds a job. -/
theorem step_of_held {p : Pool α} {m : Move} {r : Running α} (h : p.slots[m.slot]? = some (some r)) :
    p.step tracing m =
      ((r.move tracing p.journal.spansOpened m).1,
        p.put m.slot (r.move tracing p.journal.spansOpened m).2.1
          (r.move tracing p.journal.spansOpened m).2.2) := by
  cases m with
  | poll i =>
      have h : p.slots[i]? = some (some r) := h
      simp only [step, h, Running.move, Move.slot]
      cases r.poll tracing [] p.journal.spansOpened with
      | mk entries progress => cases progress <;> rfl
  | drop i =>
      have h : p.slots[i]? = some (some r) := h
      simp only [step, h, Running.move, Move.slot]

/-- A move of a slot that is empty already. -/
theorem step_of_over {p : Pool α} {m : Move} (h : p.slots[m.slot]? = some none) :
    p.step tracing m = (.over, p) := by
  cases m with
  | poll i =>
      have h : p.slots[i]? = some none := h
      simp only [step, h]
  | drop i =>
      have h : p.slots[i]? = some none := h
      simp only [step, h]

/-- A move of a slot that does not exist. -/
theorem step_of_noSlot {p : Pool α} {m : Move} (h : p.slots[m.slot]? = none) :
    p.step tracing m = (.noSlot, p) := by
  cases m with
  | poll i =>
      have h : p.slots[i]? = none := h
      simp only [step, h]
  | drop i =>
      have h : p.slots[i]? = none := h
      simp only [step, h]

/-- No move makes or removes a slot. -/
theorem length_step (p : Pool α) (m : Move) : (p.step tracing m).2.slots.length = p.slots.length := by
  match h : p.slots[m.slot]? with
  | none => rw [step_of_noSlot tracing h]
  | some none => rw [step_of_over tracing h]
  | some (some r) =>
      rw [step_of_held tracing h]
      exact List.length_set

/-! ## Logs -/

/-- A move with its outcome and the entries that it wrote. -/
structure Deed (α : Type) where
  slot : Nat
  outcome : Outcome α
  entries : List Entry

/-- What a move does. -/
def deed (p : Pool α) (m : Move) : Deed α :=
  let (outcome, p') := p.step tracing m
  ⟨m.slot, outcome, p'.journal.drop p.journal.length⟩

/-- What the moves of a schedule do, one after the other. -/
def log : Pool α → List Move → List (Deed α)
  | _, [] => []
  | p, m :: ms => p.deed tracing m :: log (p.step tracing m).2 ms

/-- The pool after a schedule. -/
def after (p : Pool α) (moves : List Move) : Pool α :=
  moves.foldl (fun p m => (p.step tracing m).2) p

theorem deed_of_held {p : Pool α} {m : Move} {r : Running α} (h : p.slots[m.slot]? = some (some r)) :
    p.deed tracing m =
      ⟨m.slot, (r.move tracing p.journal.spansOpened m).1,
        (r.move tracing p.journal.spansOpened m).2.2⟩ := by
  simp [deed, step_of_held tracing h, put]

theorem deed_of_over {p : Pool α} {m : Move} (h : p.slots[m.slot]? = some none) :
    p.deed tracing m = ⟨m.slot, .over, []⟩ := by
  simp [deed, step_of_over tracing h]

theorem deed_of_noSlot {p : Pool α} {m : Move} (h : p.slots[m.slot]? = none) :
    p.deed tracing m = ⟨m.slot, .noSlot, []⟩ := by
  simp [deed, step_of_noSlot tracing h]

/-- What a move writes, the job in its slot writes. -/
theorem exists_held_of_mem_deed {p : Pool α} {m : Move} {e : Entry} (h : e ∈ (p.deed tracing m).entries) :
    ∃ r, p.slots[m.slot]? = some (some r) ∧ e ∈ (r.move tracing p.journal.spansOpened m).2.2 := by
  match hslot : p.slots[m.slot]? with
  | none =>
      rw [deed_of_noSlot tracing hslot] at h
      exact absurd h List.not_mem_nil
  | some none =>
      rw [deed_of_over tracing hslot] at h
      exact absurd h List.not_mem_nil
  | some (some r) =>
      rw [deed_of_held tracing hslot] at h
      exact ⟨r, rfl, h⟩

@[simp] theorem slot_deed (p : Pool α) (m : Move) : (p.deed tracing m).slot = m.slot := rfl

/-- The entries of a deed are those by which the journal grows. -/
theorem journal_step (p : Pool α) (m : Move) :
    (p.step tracing m).2.journal = p.journal ++ (p.deed tracing m).entries := by
  match h : p.slots[m.slot]? with
  | none => simp [step_of_noSlot tracing h, deed_of_noSlot tracing h]
  | some none => simp [step_of_over tracing h, deed_of_over tracing h]
  | some (some r) => simp [step_of_held tracing h, deed_of_held tracing h, put]

/-- The log tells all that the journal does. -/
theorem journal_after (p : Pool α) (moves : List Move) :
    (p.after tracing moves).journal = p.journal ++ (p.log tracing moves).flatMap Deed.entries := by
  induction moves generalizing p with
  | nil => simp [after, log]
  | cons m ms ih =>
      rw [after, List.foldl_cons, ← after, ih, journal_step, log, List.flatMap_cons, List.append_assoc]

/-! ## The part of one slot -/

/-- What happens in slot `i`. -/
def own (i : Nat) (log : List (Deed α)) : List (Deed α) := log.filter fun d => d.slot = i

/-- The moves of slot `i`, as moves of the only slot of a pool. -/
def share (i : Nat) (moves : List Move) : List Move :=
  (moves.filter fun m => m.slot = i).map (Move.onto 0)

theorem own_cons_of_eq {i : Nat} {d : Deed α} (h : d.slot = i) (log : List (Deed α)) :
    own i (d :: log) = d :: own i log :=
  List.filter_cons_of_pos (by simp [h])

theorem own_cons_of_ne {i : Nat} {d : Deed α} (h : d.slot ≠ i) (log : List (Deed α)) :
    own i (d :: log) = own i log :=
  List.filter_cons_of_neg (by simp [h])

theorem share_cons_of_eq {i : Nat} {m : Move} (h : m.slot = i) (moves : List Move) :
    share i (m :: moves) = m.onto 0 :: share i moves := by
  simp [share, h]

theorem share_cons_of_ne {i : Nat} {m : Move} (h : m.slot ≠ i) (moves : List Move) :
    share i (m :: moves) = share i moves := by
  simp [share, h]

theorem share_append (i : Nat) (a b : List Move) : share i (a ++ b) = share i a ++ share i b := by
  simp [share]

/-- When all moves are of one slot, all that happens happens there. -/
theorem own_log_of_slots {i : Nat} {moves : List Move} (h : ∀ m ∈ moves, m.slot = i) (p : Pool α) :
    own i (p.log tracing moves) = p.log tracing moves := by
  induction moves generalizing p with
  | nil => rfl
  | cons m ms ih =>
      rw [log, own_cons_of_eq (by rw [slot_deed, h m List.mem_cons_self]),
        ih fun m' hm' => h m' (List.mem_cons_of_mem m hm')]

theorem slot_of_mem_share {i : Nat} {m : Move} {moves : List Move} (h : m ∈ share i moves) :
    m.slot = 0 := by
  obtain ⟨m', -, rfl⟩ := List.mem_map.mp h
  exact Move.slot_onto 0 m'

theorem own_log_share (i : Nat) (moves : List Move) (p : Pool α) :
    own 0 (p.log tracing (share i moves)) = p.log tracing (share i moves) :=
  own_log_of_slots tracing (fun _ => slot_of_mem_share) p

/-! ## The sight of a slot -/

/-- All that can be seen of a slot, but for the numbers and the identities of its spans. -/
structure Sight (α : Type) where
  /-- What came of its moves. -/
  outcomes : List (Outcome α)
  /-- The calls that it made. -/
  calls : List Call
  /-- The spans that it opened, with all that the whole pool recorded on them. -/
  spans : List (Option Journal.SpanView)

/-- The entries that slot `i` writes under a schedule. -/
def ownEntries (p : Pool α) (i : Nat) (moves : List Move) : List Entry :=
  (own i (p.log tracing moves)).flatMap Deed.entries

/-- What can be seen of slot `i` after a schedule. -/
def sight (p : Pool α) (i : Nat) (moves : List Move) : Sight α where
  outcomes := (own i (p.log tracing moves)).map Deed.outcome
  calls := Journal.calls (p.ownEntries tracing i moves)
  spans := (Journal.openedNumbers (p.ownEntries tracing i moves)).map
    (p.after tracing moves).journal.spanView?

end Pool

end DeviceMessaging
