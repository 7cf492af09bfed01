import DeviceMessaging.Proofs.Job.Openings
import DeviceMessaging.Proofs.Pool.OneWait
import Mathlib.Data.List.Nodup
import Mathlib.Data.List.Pairwise

/-!
# `Proofs.Pool.Openings` — the spans that a pool opens

Spans are numbered in the order in which they open, whoever opens them; so a number names one span of one
slot, and the ids of a span are those of its number. What a slot opens at its first poll it opens in one
piece, whatever is done to the other slots.

## Contents
- `Pool.openedNumbers_log`, `Pool.spanId_of_log`: the numbers and the ids of a schedule.
- `Pool.slot_of_number`, `Pool.number_lt_of_log`: two openings with one number are of one slot.
- `Pool.ownEntries_of_start`: the first poll of a slot, and what comes after it.
-/

namespace DeviceMessaging

/-! ## Numbers -/

variable {α : Type} (tracing : Tracing)

theorem Running.openedNumbers_move (r : Running α) (next : Nat) (m : Pool.Move) :
    Journal.openedNumbers (r.move tracing next m).2.2 =
      List.range' next (Journal.spansOpened (r.move tracing next m).2.2) := by
  cases m with
  | drop i =>
      show Journal.openedNumbers (closings r.held) = List.range' next (Journal.spansOpened (closings r.held))
      rw [Journal.openedNumbers_closings, Journal.spansOpened_closings]
      rfl
  | poll i =>
      rw [entries_move_poll]
      exact Job.openedNumbers_advance tracing [] r.job r.held next

theorem Running.spanId_of_move {r : Running α} {next : Nat} {m : Pool.Move} {o : Opening}
    (h : o ∈ Journal.openings (r.move tracing next m).2.2) :
    o.span.context.spanId = tracing.ids.spanId o.span.number := by
  cases m with
  | drop i =>
      obtain ⟨s, -, hs⟩ := List.mem_map.mp (Journal.mem_openings.mp h)
      cases hs
  | poll i =>
      rw [entries_move_poll] at h
      exact Job.spanId_of_advance h

namespace Pool

theorem openedNumbers_deed (p : Pool α) (m : Move) :
    Journal.openedNumbers (p.deed tracing m).entries =
      List.range' p.journal.spansOpened (Journal.spansOpened (p.deed tracing m).entries) := by
  match hslot : p.slots[m.slot]? with
  | none =>
      rw [deed_of_noSlot tracing hslot]
      rfl
  | some none =>
      rw [deed_of_over tracing hslot]
      rfl
  | some (some r) =>
      rw [deed_of_held tracing hslot]
      exact r.openedNumbers_move tracing _ m

/-- **A schedule numbers its spans** in the order in which they open. -/
theorem openedNumbers_log (p : Pool α) (moves : List Move) :
    Journal.openedNumbers ((p.log tracing moves).flatMap Deed.entries) =
      List.range' p.journal.spansOpened
        (Journal.spansOpened ((p.log tracing moves).flatMap Deed.entries)) := by
  induction moves generalizing p with
  | nil => rfl
  | cons m ms ih =>
      have hnext : (p.step tracing m).2.journal.spansOpened =
          p.journal.spansOpened + Journal.spansOpened (p.deed tracing m).entries := by
        rw [journal_step, Journal.spansOpened_append]
      rw [log, List.flatMap_cons, Journal.openedNumbers_append, Journal.spansOpened_append,
        openedNumbers_deed, ih, hnext]
      exact List.range'_append_1

theorem spanId_of_log {p : Pool α} {moves : List Move} {d : Deed α} (hd : d ∈ p.log tracing moves)
    {o : Opening} (ho : o ∈ Journal.openings d.entries) :
    o.span.context.spanId = tracing.ids.spanId o.span.number := by
  induction moves generalizing p with
  | nil => exact absurd hd List.not_mem_nil
  | cons m ms ih =>
      rcases List.mem_cons.mp hd with rfl | hd
      · obtain ⟨r, -, he⟩ := exists_held_of_mem_deed tracing (Journal.mem_openings.mp ho)
        exact Running.spanId_of_move tracing (Journal.mem_openings.mpr he)
      · exact ih hd

/-- **A number names one span of one slot.** -/
theorem slot_of_number {p : Pool α} {moves : List Move} {d d' : Deed α} (hd : d ∈ p.log tracing moves)
    (hd' : d' ∈ p.log tracing moves) {o o' : Opening} (ho : o ∈ Journal.openings d.entries)
    (ho' : o' ∈ Journal.openings d'.entries) (hnumber : o.span.number = o'.span.number) :
    d.slot = d'.slot := by
  have hnodup : (Journal.openedNumbers ((p.log tracing moves).flatMap Deed.entries)).Nodup := by
    rw [openedNumbers_log]
    exact List.nodup_range'
  have hflat : Journal.openedNumbers ((p.log tracing moves).flatMap Deed.entries) =
      (p.log tracing moves).flatMap fun d => Journal.openedNumbers d.entries := by
    unfold Journal.openedNumbers
    rw [List.filterMap_flatMap]
  rw [hflat, List.nodup_flatMap] at hnodup
  by_contra hne
  -- deeds of two slots are two deeds, and these have no number in common
  have hdeeds : d ≠ d' := by
    rintro rfl
    exact hne rfl
  have hsymm : Std.Symm (Function.onFun List.Disjoint fun d : Deed α => Journal.openedNumbers d.entries) :=
    ⟨fun _ _ hdisjoint _ hn hn' => hdisjoint hn' hn⟩
  have hdisjoint := hnodup.2.forall hd hd' hdeeds
  exact hdisjoint (Journal.mem_openedNumbers ho) (hnumber ▸ Journal.mem_openedNumbers ho')

/-- The number of a span is among those that the schedule gave out. -/
theorem number_lt_of_log {p : Pool α} {moves : List Move} {d : Deed α} (hd : d ∈ p.log tracing moves)
    {o : Opening} (ho : o ∈ Journal.openings d.entries) :
    o.span.number < (p.after tracing moves).journal.spansOpened := by
  have hflat : o ∈ Journal.openings ((p.log tracing moves).flatMap Deed.entries) := by
    rw [Journal.mem_openings] at ho ⊢
    exact List.mem_flatMap.mpr ⟨d, hd, ho⟩
  have hnumber := Journal.mem_openedNumbers hflat
  rw [openedNumbers_log, List.mem_range'_1] at hnumber
  rw [journal_after, Journal.spansOpened_append]
  exact hnumber.2

/-- What a slot opens is opened in one of its deeds. -/
theorem exists_deed_of_ownEntries {p : Pool α} {i : Nat} {moves : List Move} {o : Opening}
    (ho : o ∈ Journal.openings (p.ownEntries tracing i moves)) :
    ∃ d ∈ p.log tracing moves, d.slot = i ∧ o ∈ Journal.openings d.entries := by
  obtain ⟨d, hd, he⟩ := List.mem_flatMap.mp (Journal.mem_openings.mp ho)
  obtain ⟨hd, hslot⟩ := List.mem_filter.mp hd
  exact ⟨d, hd, of_decide_eq_true hslot, Journal.mem_openings.mpr he⟩

/-! ## The first poll -/

/-- The slot was polled while its job was there. -/
def polled (i : Nat) (log : List (Deed α)) : Bool := (own i log).any fun d => d.outcome.isPoll

section Slot

variable {p : Pool α} {i : Nat} {m : Move} {ms : List Move}

/-- A move of another slot leaves a slot alone. -/
theorem slots_step_of_ne (h : m.slot ≠ i) : (p.step tracing m).2.slots[i]? = p.slots[i]? := by
  match hslot : p.slots[m.slot]? with
  | none => rw [step_of_noSlot tracing hslot]
  | some none => rw [step_of_over tracing hslot]
  | some (some r) =>
      rw [step_of_held tracing hslot]
      exact slots_put_of_ne (Ne.symm h) _ _

theorem ownEntries_cons_of_eq (h : m.slot = i) :
    p.ownEntries tracing i (m :: ms) =
      (p.deed tracing m).entries ++ (p.step tracing m).2.ownEntries tracing i ms := by
  have hdeed : (p.deed tracing m).slot = i := h
  rw [ownEntries, log, own_cons_of_eq hdeed, List.flatMap_cons]
  rfl

theorem ownEntries_cons_of_ne (h : m.slot ≠ i) :
    p.ownEntries tracing i (m :: ms) = (p.step tracing m).2.ownEntries tracing i ms := by
  have hdeed : (p.deed tracing m).slot ≠ i := h
  rw [ownEntries, log, own_cons_of_ne hdeed]
  rfl

theorem polled_cons_of_eq (h : m.slot = i) :
    polled i (p.log tracing (m :: ms)) =
      ((p.deed tracing m).outcome.isPoll || polled i ((p.step tracing m).2.log tracing ms)) := by
  have hdeed : (p.deed tracing m).slot = i := h
  rw [polled, log, own_cons_of_eq hdeed, List.any_cons]
  rfl

theorem polled_cons_of_ne (h : m.slot ≠ i) :
    polled i (p.log tracing (m :: ms)) = polled i ((p.step tracing m).2.log tracing ms) := by
  have hdeed : (p.deed tracing m).slot ≠ i := h
  rw [polled, log, own_cons_of_ne hdeed]
  rfl

/-- A slot that holds a job is polled when a schedule begins with its poll. -/
theorem polled_of_held {r : Running α} (h : p.slots[i]? = some (some r)) (ms : List Move) :
    polled i (p.log tracing (.poll i :: ms)) = true := by
  have hslot : (Move.poll i).slot = i := rfl
  have hpoll : (p.deed tracing (.poll i)).outcome.isPoll = true := isPoll_of_held tracing h
  rw [polled_cons_of_eq tracing hslot, hpoll, Bool.true_or]

/-- Nothing comes of the moves of a slot that is empty. -/
theorem ownEntries_of_over (h : p.slots[i]? = some none) (moves : List Move) :
    polled i (p.log tracing moves) = false ∧ p.ownEntries tracing i moves = [] := by
  induction moves generalizing p with
  | nil => exact ⟨rfl, rfl⟩
  | cons m ms ih =>
      by_cases hm : m.slot = i
      · have hslot : p.slots[m.slot]? = some none := hm ▸ h
        rw [polled_cons_of_eq tracing hm, ownEntries_cons_of_eq tracing hm, step_of_over tracing hslot,
          deed_of_over tracing hslot]
        exact ih h
      · rw [polled_cons_of_ne tracing hm, ownEntries_cons_of_ne tracing hm]
        exact ih ((slots_step_of_ne tracing hm).trans h)

/-- From its second poll on a slot does only what the first one left to do. -/
theorem leftCan_of_step {job : Job α} (h : p.slots[i]? = some (some job.start)) (ms : List Move) :
    ∀ e ∈ (p.step tracing (.poll i)).2.ownEntries tracing i ms, ∀ a, e.act? = some a →
      Job.leftCan a (job.advance tracing [] [] p.journal.spansOpened).2 := by
  have hkeeps : (p.step tracing (.poll i)).2.Keeps fun j a =>
      j = i → Job.leftCan a (job.advance tracing [] [] p.journal.spansOpened).2 := by
    intro j r hr a hcan hj
    subst hj
    have hslot : p.slots[(Move.poll j).slot]? = some (some job.start) := h
    rw [step_of_held tracing hslot] at hr
    have hleft := (slots_put_self hslot _ _).symm.trans hr
    have hrest := (Running.move_poll_eq_some_iff tracing).mp (Option.some.inj hleft)
    show Job.leftCan a (job.start.job.advance tracing [] job.start.held _).2
    rw [hrest]
    exact hcan
  intro e he a hact
  obtain ⟨d, hd, he⟩ := List.mem_flatMap.mp he
  obtain ⟨hd, hslot⟩ := List.mem_filter.mp hd
  exact hkeeps.log tracing ms d hd e he hact (of_decide_eq_true hslot)

/-- **A slot in a pool of many** does nothing before its first poll; what it does at that poll it does in
one piece, and afterwards it does only what is left to do. -/
theorem ownEntries_of_start {job : Job α} (h : p.slots[i]? = some (some job.start))
    (moves : List Move) :
    (polled i (p.log tracing moves) = false ∧ p.ownEntries tracing i moves = []) ∨
      (polled i (p.log tracing moves) = true ∧ ∃ next later,
        p.ownEntries tracing i moves = (job.advance tracing [] [] next).1 ++ later ∧
        ∀ e ∈ later, ∀ a, e.act? = some a → Job.leftCan a (job.advance tracing [] [] next).2) := by
  induction moves generalizing p with
  | nil => exact .inl ⟨rfl, rfl⟩
  | cons m ms ih =>
      by_cases hm : m.slot = i
      · subst hm
        cases m with
        | drop i =>
            -- the job was never polled, and holds nothing that could close
            have hslot : p.slots[(Move.drop i).slot]? = some (some job.start) := h
            have hgone : (p.step tracing (.drop i)).2.slots[i]? = some none := by
              rw [step_of_held tracing hslot]
              exact slots_put_self hslot _ _
            rw [polled_cons_of_eq tracing rfl, ownEntries_cons_of_eq tracing rfl,
              deed_of_held tracing hslot]
            exact .inl (ownEntries_of_over tracing hgone ms)
        | poll i =>
            have hslot : p.slots[(Move.poll i).slot]? = some (some job.start) := h
            refine .inr ⟨polled_of_held tracing h ms, p.journal.spansOpened, _, ?_,
              leftCan_of_step tracing h ms⟩
            rw [ownEntries_cons_of_eq tracing rfl, deed_of_held tracing hslot]
            exact congrArg (· ++ _) (job.start.entries_move_poll tracing _ i)
      · rw [polled_cons_of_ne tracing hm, ownEntries_cons_of_ne tracing hm]
        exact ih ((slots_step_of_ne tracing hm).trans h)

end Slot

end Pool

end DeviceMessaging
