import DeviceMessaging.Proofs.Job.Course
import DeviceMessaging.Proofs.Pool.Log

/-!
# `Proofs.Pool.Alone` — a job in a pool of its own

A pool with one slot polls its job until it ends or is dropped. What it does on the way is a first part of
what the job does when nobody drops it, and all of that when the job ends.

## Contents
- `log_of_over`: nothing happens in a slot that is empty.
- `Pool.log_alone`: the log of one job, and the job run to its end.
-/

namespace DeviceMessaging

namespace Pool

variable {α : Type} (tracing : Tracing)

/-- Nothing happens in a slot that is empty. -/
theorem log_of_over {q : Pool α} (hq : q.slots[0]? = some none) {moves : List Move}
    (hmoves : ∀ m ∈ moves, m.slot = 0) : ∀ d ∈ q.log tracing moves, d.outcome = .over ∧ d.entries = [] := by
  induction moves with
  | nil => exact fun d hd => absurd hd List.not_mem_nil
  | cons m ms ih =>
      have hm : q.slots[m.slot]? = some none := by rw [hmoves m List.mem_cons_self]; exact hq
      have ih := ih fun m' hm' => hmoves m' (List.mem_cons_of_mem m hm')
      rw [log, step_of_over tracing hm, deed_of_over tracing hm]
      intro d hd
      rcases List.mem_cons.mp hd with rfl | hd
      · exact ⟨rfl, rfl⟩
      · exact ih d hd

theorem entries_of_over {q : Pool α} (hq : q.slots[0]? = some none) {moves : List Move}
    (hmoves : ∀ m ∈ moves, m.slot = 0) : (q.log tracing moves).flatMap Deed.entries = [] :=
  List.flatMap_eq_nil_iff.mpr fun d hd => (log_of_over tracing hq hmoves d hd).2

theorem not_finished_of_over {q : Pool α} (hq : q.slots[0]? = some none) {moves : List Move}
    (hmoves : ∀ m ∈ moves, m.slot = 0) (a : α) :
    .finished a ∉ (q.log tracing moves).map Deed.outcome := by
  intro ha
  obtain ⟨d, hd, hfinished⟩ := List.mem_map.mp ha
  rw [(log_of_over tracing hq hmoves d hd).1] at hfinished
  cases hfinished

/-- **A job alone** makes the first of its calls, and when it ends it has done all that it does when it
is polled until it ends. -/
theorem log_alone {q : Pool α} {r : Running α} (hq : q.slots[0]? = some (some r)) {moves : List Move}
    (hmoves : ∀ m ∈ moves, m.slot = 0) :
    let whole := r.job.complete tracing [] r.held q.journal.spansOpened
    let entries := (q.log tracing moves).flatMap Deed.entries
    (∃ later, Journal.calls whole.1 = Journal.calls entries ++ later) ∧
      ∀ a, .finished a ∈ (q.log tracing moves).map Deed.outcome → whole = (entries, a) := by
  induction moves generalizing q r with
  | nil => exact ⟨⟨_, rfl⟩, fun a ha => absurd ha List.not_mem_nil⟩
  | cons m ms ih =>
      have hslot : m.slot = 0 := hmoves m List.mem_cons_self
      have hms : ∀ m' ∈ ms, m'.slot = 0 := fun m' hm' => hmoves m' (List.mem_cons_of_mem m hm')
      have hm : q.slots[m.slot]? = some (some r) := by rw [hslot]; exact hq
      have hput := slots_put_self hm
      rw [hslot] at hput
      rw [log, step_of_held tracing hm, deed_of_held tracing hm, hslot, List.flatMap_cons, List.map_cons]
      cases m with
      | drop i =>
          -- closing spans makes no calls, and nothing finishes any more
          have hdropped : (q.put 0 none r.drop).slots[0]? = some none := hput none r.drop
          constructor
          · refine ⟨Journal.calls (r.job.complete tracing [] r.held q.journal.spansOpened).1, ?_⟩
            rw [Running.move, entries_of_over tracing hdropped hms, List.append_nil, Running.drop,
              Journal.calls_closings, List.nil_append]
          · intro a ha
            rcases List.mem_cons.mp ha with ha | ha
            · cases ha
            · exact absurd ha (not_finished_of_over tracing hdropped hms a)
      | poll i =>
          rw [Job.complete_eq_resume]
          simp only [Running.move, Running.poll]
          generalize r.job.advance tracing [] r.held q.journal.spansOpened = poll
          obtain ⟨entries, progress⟩ := poll
          cases progress with
          | finished a =>
              -- the poll was the whole way, and the slot is empty from now on
              have hover := hput none entries
              rw [entries_of_over tracing hover hms, List.append_nil]
              constructor
              · exact ⟨[], (List.append_nil _).symm⟩
              · intro b hb
                rcases List.mem_cons.mp hb with hb | hb
                · cases hb
                  rfl
                · exact absurd hb (not_finished_of_over tracing hover hms b)
          | pending rest =>
              -- the way goes on where the poll left it
              obtain ⟨⟨later, hcalls⟩, hfinished⟩ := ih (hput (some rest) entries) hms
              rw [spansOpened_put] at hcalls hfinished
              constructor
              · refine ⟨later, ?_⟩
                rw [Job.resume, Journal.calls_append, hcalls, Journal.calls_append, List.append_assoc]
              · intro a ha
                rcases List.mem_cons.mp ha with ha | ha
                · cases ha
                · rw [Job.resume, hfinished a ha]

/-- The sight of a job alone, against the job run to its end. -/
theorem sight_alone (job : Job α) {moves : List Move} (hmoves : ∀ m ∈ moves, m.slot = 0) :
    let whole := job.complete tracing [] [] 0
    let seen := (ofJobs [job] []).sight tracing 0 moves
    (∃ later, Journal.calls whole.1 = seen.calls ++ later) ∧
      ∀ a, .finished a ∈ seen.outcomes → a = whole.2 ∧ seen.calls = Journal.calls whole.1 ∧
        seen.spans = (Journal.openedNumbers whole.1).map (Journal.spanView? whole.1) := by
  obtain ⟨hcalls, hfinished⟩ := log_alone tracing (q := ofJobs [job] []) (r := job.start) rfl hmoves
  unfold sight ownEntries
  rw [own_log_of_slots tracing hmoves]
  refine ⟨hcalls, ?_⟩
  intro a ha
  have hwhole : job.complete tracing [] [] 0 =
      (((ofJobs [job] []).log tracing moves).flatMap Deed.entries, a) := hfinished a ha
  rw [hwhole, journal_after]
  exact ⟨rfl, rfl, rfl⟩

end Pool

end DeviceMessaging
