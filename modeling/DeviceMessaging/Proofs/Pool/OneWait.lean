import DeviceMessaging.Proofs.Job.Course
import DeviceMessaging.Proofs.Pool.Log

/-!
# `Proofs.Pool.OneWait` — a job that waits once

Many jobs do something at once, wait for one answer and then go on to their end. Whoever polls and drops
such a job, it comes to one of few things: it was never polled, it is waiting, it was dropped while it
waited, or it has ended. What it has written follows from that alone, whatever the number of polls.

## Contents
- `Job.WaitsOnce`, with `WaitsOnce.advance_eq`: the first poll of such a job.
- `Pool.Outcome.isPoll`, `Pool.Outcome.isEnd`: what the outcome of a move says of the job.
- `Pool.outcomes`: the outcomes of a schedule, with `outcomes_cons` and `after_cons`.
- `Pool.eq_of_single`, `Pool.slots_put_single`: pools of one slot.
- `Pool.after_of_empty`: nothing comes of moves when the job is gone.
- `Pool.Fate`, with `fate_of_waiting` and `fate_ofJobs`: what the job comes to.
-/

namespace DeviceMessaging

variable {α : Type} (tracing : Tracing)

/-! ## Jobs that wait once -/

/-- The job, holding the spans `held` when span `next` is the next one, writes `front` at once; then it
waits, if it does, while it holds `kept`, and ends with `result` having written `back`. -/
inductive Job.WaitsOnce (back : List Entry) (kept : List OpenSpan) (result : α) :
    Job α → List OpenSpan → Nat → List Entry → Prop where
  | delayed {rest : Job α} {next : Nat} (wait : Nat)
      (last : rest.advance tracing [] kept next = (back, .finished result)) :
      WaitsOnce back kept result (rest.delayed wait) kept next []
  | emit {t : Job α} {held : List OpenSpan} {next : Nat} {front : List Entry} (e : Event)
      (ht : WaitsOnce back kept result t held next front) :
      WaitsOnce back kept result (.emit e t) held next (.event e (numbers held) :: front)
  | invoke {t : Job α} {held : List OpenSpan} {next : Nat} {front : List Entry} (c : Call)
      (ht : WaitsOnce back kept result t held next front) :
      WaitsOnce back kept result (.invoke c t) held next (.called c (numbers held) :: front)
  | openSpan {t : Job α} {held : List OpenSpan} {next : Nat} {front : List Entry} (spec : SpanSpec)
      (ht : WaitsOnce back kept result t (spanAt tracing [] held next spec :: held) (next + 1) front) :
      WaitsOnce back kept result (.openSpan spec t) held next
        (.opened (spanAt tracing [] held next spec) spec (tracing.parent? held spec.parent) :: front)

namespace Job.WaitsOnce

variable {tracing} {job : Job α} {held kept : List OpenSpan} {next : Nat} {front back : List Entry}
  {result : α}

/-- **The first poll** of a job that waits once writes the front, and goes on as a poll of what is left. -/
theorem advance_eq (h : WaitsOnce tracing back kept result job held next front) :
    ∃ (rest : Job α) (wait : Nat),
      rest.advance tracing [] kept (next + Journal.spansOpened front) = (back, .finished result) ∧
      job.advance tracing [] held next =
        (front ++ ((rest.delayed wait).advance tracing [] kept (next + Journal.spansOpened front)).1,
          ((rest.delayed wait).advance tracing [] kept (next + Journal.spansOpened front)).2) := by
  -- the front grows by one entry with each step before the wait
  induction h with
  | delayed wait last => exact ⟨_, wait, last, rfl⟩
  | emit e ht ih =>
      obtain ⟨rest, wait, hlast, hfirst⟩ := ih
      refine ⟨rest, wait, ?_, ?_⟩
      · rwa [Job.spansOpened_cons rfl]
      · rw [Job.advance_emit, hfirst, Job.spansOpened_cons rfl, List.append_nil, List.cons_append]
  | invoke c ht ih =>
      obtain ⟨rest, wait, hlast, hfirst⟩ := ih
      refine ⟨rest, wait, ?_, ?_⟩
      · rwa [Job.spansOpened_cons rfl]
      · rw [Job.advance_invoke, hfirst, Job.spansOpened_cons rfl, List.append_nil, List.cons_append]
  | @openSpan t held next front spec ht ih =>
      obtain ⟨rest, wait, hlast, hfirst⟩ := ih
      have hnext : next + 1 + Journal.spansOpened front = next + (Journal.spansOpened front + 1) := by
        omega
      rw [hnext] at hlast hfirst
      refine ⟨rest, wait, ?_, ?_⟩
      · rwa [Job.spansOpened_opened]
      · rw [Job.advance_openSpan, hfirst, Job.spansOpened_opened, List.append_nil, List.cons_append]

end Job.WaitsOnce

namespace Pool

/-! ## Outcomes -/

namespace Outcome

/-- The job was there and was polled. -/
def isPoll : Outcome α → Bool
  | pending | finished _ => true
  | _ => false

/-- The job has ended or was dropped just now. -/
def isEnd : Outcome α → Bool
  | finished _ | dropped => true
  | _ => false

end Outcome

/-- What comes of the moves of a schedule. -/
def outcomes (p : Pool α) (moves : List Move) : List (Outcome α) := (p.run tracing moves).map Prod.fst

theorem outcomes_cons (p : Pool α) (m : Move) (ms : List Move) :
    p.outcomes tracing (m :: ms) =
      (p.step tracing m).1 :: (p.step tracing m).2.outcomes tracing ms := rfl

theorem after_cons (p : Pool α) (m : Move) (ms : List Move) :
    p.after tracing (m :: ms) = (p.step tracing m).2.after tracing ms := rfl

/-- A poll of a slot that holds a job is a poll of that job. -/
theorem isPoll_of_held {p : Pool α} {i : Nat} {r : Running α} (h : p.slots[i]? = some (some r)) :
    (p.step tracing (.poll i)).1.isPoll = true := by
  simp only [step, h]
  cases r.poll tracing [] p.journal.spansOpened with
  | mk entries progress => cases progress <;> rfl

/-! ## The only slot -/

section Single

variable {q : Pool α} {slot : Option (Running α)} {i : Nat} {found : Option (Running α)}

/-- A pool of one slot has that slot and no other. -/
theorem eq_of_single (hq : q.slots = [slot]) (h : q.slots[i]? = some found) : i = 0 ∧ found = slot := by
  obtain ⟨hlt, hfound⟩ := List.getElem?_eq_some_iff.mp h
  have hmem := List.mem_of_getElem? h
  rw [hq, List.length_singleton] at hlt
  rw [hq, List.mem_singleton] at hmem
  exact ⟨Nat.lt_one_iff.mp hlt, hmem⟩

theorem slots_put_single (hq : q.slots = [slot]) (h : q.slots[i]? = some found)
    (next : Option (Running α)) (entries : List Entry) : (q.put i next entries).slots = [next] := by
  rw [put, hq, (eq_of_single hq h).1]
  rfl

end Single

/-! ## A job that is gone -/

/-- Nothing comes of moves when the only slot is empty. -/
theorem step_of_empty {q : Pool α} (hq : q.slots = [none]) (m : Move) :
    (q.step tracing m).2 = q ∧ (q.step tracing m).1.isPoll = false ∧
      (q.step tracing m).1.isEnd = false := by
  match hslot : q.slots[m.slot]? with
  | none =>
      rw [step_of_noSlot tracing hslot]
      exact ⟨rfl, rfl, rfl⟩
  | some none =>
      rw [step_of_over tracing hslot]
      exact ⟨rfl, rfl, rfl⟩
  | some (some r) => cases (eq_of_single hq hslot).2

theorem after_of_empty {q : Pool α} (hq : q.slots = [none]) (moves : List Move) :
    q.after tracing moves = q ∧ ∀ o ∈ q.outcomes tracing moves, o.isPoll = false ∧ o.isEnd = false := by
  induction moves with
  | nil => exact ⟨rfl, fun o ho => absurd ho List.not_mem_nil⟩
  | cons m ms ih =>
      obtain ⟨hstep, hpoll, hend⟩ := step_of_empty tracing hq m
      rw [after_cons, outcomes_cons, hstep]
      refine ⟨ih.1, fun o ho => ?_⟩
      rcases List.mem_cons.mp ho with rfl | ho
      · exact ⟨hpoll, hend⟩
      · exact ih.2 o ho

/-! ## The fate of a job -/

/-- What a job that waits once has come to, given the journal and the outcomes of a schedule. -/
inductive Fate (front back : List Entry) (kept : List OpenSpan) (result : α) (journal : Journal)
    (outcomes : List (Outcome α)) : Prop where
  | waiting (written : journal = front) (alive : ∀ o ∈ outcomes, o.isEnd = false)
  | dropped (written : journal = front ++ closings kept) (gone : .dropped ∈ outcomes)
      (unanswered : ∀ a, .finished a ∉ outcomes)
  | ended (written : journal = front ++ back) (answered : ∀ a, .finished a ∈ outcomes ↔ a = result)

section Fate

variable {tracing} {front back : List Entry} {kept : List OpenSpan} {result : α}

/-- A move that neither ends nor drops the job makes no difference to its fate. -/
theorem Fate.cons {journal : Journal} {os : List (Outcome α)} {o : Outcome α} (ho : o.isEnd = false)
    (h : Fate front back kept result journal os) : Fate front back kept result journal (o :: os) := by
  have hfinished : ∀ a, .finished a ≠ o := by
    rintro a rfl
    cases ho
  cases h with
  | waiting written alive =>
      refine .waiting written fun o' ho' => ?_
      rcases List.mem_cons.mp ho' with rfl | ho'
      · exact ho
      · exact alive o' ho'
  | dropped written gone unanswered =>
      refine .dropped written (List.mem_cons_of_mem o gone) fun a ha => ?_
      exact (List.mem_cons.mp ha).elim (hfinished a) (unanswered a)
  | ended written answered =>
      refine .ended written fun a => ?_
      rw [List.mem_cons, answered]
      exact or_iff_right (hfinished a)

/-- **From moves to schedules**: a job that is waiting goes on waiting, or is dropped, or ends. -/
theorem fate_of_waiting {q : Pool α} {rest : Job α} {wait : Nat}
    (hq : q.slots = [some ⟨rest.delayed wait, kept⟩])
    (hlast : rest.advance tracing [] kept q.journal.spansOpened = (back, .finished result))
    (moves : List Move) :
    Fate q.journal back kept result (q.after tracing moves).journal (q.outcomes tracing moves) := by
  induction moves generalizing q wait with
  | nil => exact .waiting rfl fun o ho => absurd ho List.not_mem_nil
  | cons m ms ih =>
      rw [after_cons, outcomes_cons]
      match hslot : q.slots[m.slot]? with
      | none =>
          rw [step_of_noSlot tracing hslot]
          exact (ih hq hlast).cons rfl
      | some none => cases (eq_of_single hq hslot).2
      | some (some r) =>
          obtain rfl : r = ⟨rest.delayed wait, kept⟩ := Option.some.inj (eq_of_single hq hslot).2
          have hput := slots_put_single hq hslot
          rw [step_of_held tracing hslot]
          cases m with
          | drop i =>
              -- the spans close, and the slot is empty from then on
              obtain ⟨hafter, hidle⟩ := after_of_empty tracing (hput none (closings kept)) ms
              refine .dropped ?_ List.mem_cons_self fun a ha => ?_
              · exact congrArg Pool.journal hafter
              · rcases List.mem_cons.mp ha with ha | ha
                · cases ha
                · cases (hidle _ ha).2
          | poll i =>
              cases wait with
              | zero =>
                  -- the answer is there, and the job runs to its end
                  have hpoll : Running.poll tracing [] q.journal.spansOpened ⟨rest.delayed 0, kept⟩ =
                      (back, .finished result) := hlast
                  obtain ⟨hafter, hidle⟩ := after_of_empty tracing (hput none back) ms
                  simp only [Running.move, hpoll]
                  refine .ended (congrArg Pool.journal hafter) fun a => ?_
                  rw [List.mem_cons]
                  constructor
                  · rintro (ha | ha)
                    · exact Outcome.finished.inj ha
                    · cases (hidle _ ha).2
                  · rintro rfl
                    exact .inl rfl
              | succ n =>
                  -- the poll comes too early
                  have hpoll : Running.poll tracing [] q.journal.spansOpened ⟨rest.delayed (n + 1), kept⟩ =
                      ([], .pending ⟨rest.delayed n, kept⟩) := rfl
                  have hjournal : ∀ slot, (q.put i slot []).journal = q.journal := fun slot =>
                    List.append_nil q.journal
                  have hnext := ih (q := q.put i (some ⟨rest.delayed n, kept⟩) [])
                    (hput _ []) (by rw [hjournal]; exact hlast)
                  rw [hjournal] at hnext
                  simp only [Running.move, hpoll]
                  exact hnext.cons rfl

/-- The first poll of a job that waits once is that of a job which is waiting behind the front. -/
theorem step_poll_ofJobs {job rest : Job α} {wait : Nat}
    (hfirst : job.advance tracing [] [] 0 =
      (front ++ ((rest.delayed wait).advance tracing [] kept (Journal.spansOpened front)).1,
        ((rest.delayed wait).advance tracing [] kept (Journal.spansOpened front)).2)) :
    (ofJobs [job] []).step tracing (.poll 0) =
      (⟨[some ⟨rest.delayed wait, kept⟩], front⟩ : Pool α).step tracing (.poll 0) := by
  have hpoll : job.start.poll tracing [] (Journal.spansOpened []) =
      (front ++ ((rest.delayed wait).advance tracing [] kept (Journal.spansOpened front)).1,
        ((rest.delayed wait).advance tracing [] kept (Journal.spansOpened front)).2) := hfirst
  have hpoll' : Running.poll tracing [] (Journal.spansOpened front) ⟨rest.delayed wait, kept⟩ =
      (rest.delayed wait).advance tracing [] kept (Journal.spansOpened front) := rfl
  simp only [step, ofJobs, List.map_cons, List.map_nil, List.getElem?_cons_zero, hpoll, hpoll']
  cases (rest.delayed wait).advance tracing [] kept (Journal.spansOpened front) with
  | mk entries progress => cases progress <;> rfl

/-- **The fate of a job that waits once**, in a pool of its own: nothing at all as long as nobody polls it,
and from then on that of a job that is waiting. -/
theorem fate_ofJobs {job : Job α} (h : Job.WaitsOnce tracing back kept result job [] 0 front)
    (moves : List Move) :
    (((ofJobs [job] []).outcomes tracing moves).any Outcome.isPoll = false ∧
        ((ofJobs [job] []).after tracing moves).journal = []) ∨
      (((ofJobs [job] []).outcomes tracing moves).any Outcome.isPoll = true ∧
        Fate front back kept result ((ofJobs [job] []).after tracing moves).journal
          ((ofJobs [job] []).outcomes tracing moves)) := by
  induction moves with
  | nil => exact .inl ⟨rfl, rfl⟩
  | cons m ms ih =>
      by_cases hslot : m.slot = 0
      · cases m with
        | drop i =>
            -- a job that was never polled holds nothing
            obtain rfl : i = 0 := hslot
            obtain ⟨hafter, hidle⟩ :=
              after_of_empty tracing (q := (ofJobs [job] []).put 0 none []) rfl ms
            refine .inl ⟨List.any_eq_false.mpr fun o ho => ?_, congrArg Pool.journal hafter⟩
            rcases List.mem_cons.mp ho with rfl | ho
            · exact Bool.false_ne_true
            · rw [(hidle o ho).1]
              exact Bool.false_ne_true
        | poll i =>
            obtain rfl : i = 0 := hslot
            obtain ⟨rest, wait, hlast, hfirst⟩ := h.advance_eq
            rw [Nat.zero_add] at hlast hfirst
            have hstep := step_poll_ofJobs hfirst
            have hfate := fate_of_waiting (q := ⟨[some ⟨rest.delayed wait, kept⟩], front⟩) rfl hlast
              (.poll 0 :: ms)
            rw [after_cons, outcomes_cons, ← hstep] at hfate
            refine .inr ⟨?_, hfate⟩
            rw [outcomes_cons, List.any_cons, isPoll_of_held tracing rfl, Bool.true_or]
      · -- there is no other slot, and the move makes no difference
        have hnone : (ofJobs [job] []).slots[m.slot]? = none :=
          List.getElem?_eq_none (Nat.one_le_iff_ne_zero.mpr hslot)
        rw [after_cons, outcomes_cons, step_of_noSlot tracing hnone]
        refine ih.imp (fun h => h) fun ⟨hpolled, hfate⟩ => ⟨hpolled, hfate.cons rfl⟩

end Fate

end Pool

end DeviceMessaging
