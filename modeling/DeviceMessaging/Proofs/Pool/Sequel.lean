import DeviceMessaging.Proofs.Pool.OneWait

/-!
# `Proofs.Pool.Sequel` — what is put behind the end of a job

A job that closes every span that it opens can be given a sequel, which starts with no span open. Whoever
polls and drops the job with its sequel sees the same come of every move as without it, and the journals
differ only by what the sequel writes when the job has ended.

## Contents
- `Job.Balanced`, with the closure under `bind`, `delayed` and polls.
- `Job.followedBy`, with `Job.Balanced.advance_bind`: a poll of a job with a sequel.
- `Pool.results`: the results that the outcomes of a schedule tell of.
- `Pool.EndsOnce`, with `endsOnce_of_single`: a job is answered or dropped, and that once.
- `Pool.HasSequel`, with `step` and `run`: moves and schedules, with and without the sequel.
-/

namespace DeviceMessaging

variable {α β : Type}

/-! ## Jobs that close their spans -/

namespace Job

/-- The job closes the `depth` spans that it holds, and every span that it opens itself. -/
def Balanced : Job α → Nat → Prop
  | done _, depth => depth = 0
  | suspend _ t, depth => t.Balanced depth
  | emit _ t, depth => t.Balanced depth
  | record _ _ t, depth => t.Balanced depth
  | invoke _ t, depth => t.Balanced depth
  | openSpan _ t, depth => t.Balanced (depth + 1)
  | closeSpan t, depth => ∃ outer, depth = outer + 1 ∧ t.Balanced outer
  | withHeaders f, depth => ∀ h, (f h).Balanced depth

namespace Balanced

/-- The spans that the first job does not hold are there for the second to close. -/
theorem bind {t : Job α} {k : α → Job β} {depth more : Nat} (ht : t.Balanced depth)
    (hk : ∀ a, (k a).Balanced more) : (t.bind k).Balanced (depth + more) := by
  induction t generalizing depth with
  | done a =>
      obtain rfl : depth = 0 := ht
      rw [Nat.zero_add]
      exact hk a
  | suspend n t ih => exact ih ht
  | emit e t ih => exact ih ht
  | record n v t ih => exact ih ht
  | invoke c t ih => exact ih ht
  | openSpan s t ih =>
      have hinner := ih ht
      rw [Nat.add_right_comm] at hinner
      exact hinner
  | closeSpan t ih =>
      obtain ⟨outer, rfl, ht⟩ := ht
      exact ⟨outer + more, Nat.add_right_comm outer 1 more, ih ht⟩
  | withHeaders f ih => exact fun h => ih h (ht h)

theorem delayed {t : Job α} {depth : Nat} (ht : t.Balanced depth) (n : Nat) :
    (t.delayed n).Balanced depth := by
  cases n <;> exact ht

end Balanced

/-! ## A poll of a job with a sequel -/

variable (tracing : Tracing) (ambient : List OpenSpan)

/-- What a poll comes to when `k` is put behind the job, given what it comes to without. -/
def followedBy (k : α → Job β) (next : Nat) : List Entry × Progress α → List Entry × Progress β
  | (entries, .pending rest) => (entries, .pending ⟨rest.job.bind k, rest.held⟩)
  | (entries, .finished a) =>
    let last := (k a).advance tracing ambient [] (next + Journal.spansOpened entries)
    (entries ++ last.1, last.2)

theorem followedBy_cons {e : Entry} (he : e.isOpened = false) (k : α → Job β) (next : Nat)
    (poll : List Entry × Progress α) :
    followedBy tracing ambient k next (e :: poll.1, poll.2) =
      (e :: (followedBy tracing ambient k next poll).1, (followedBy tracing ambient k next poll).2) := by
  obtain ⟨entries, progress⟩ := poll
  cases progress with
  | pending rest => rfl
  | finished a =>
      simp only [followedBy, spansOpened_cons he]
      rfl

theorem followedBy_opened (s : OpenSpan) (spec : SpanSpec) (parent : Option SpanContext) (k : α → Job β)
    (next : Nat) (poll : List Entry × Progress α) :
    followedBy tracing ambient k next (.opened s spec parent :: poll.1, poll.2) =
      (.opened s spec parent :: (followedBy tracing ambient k (next + 1) poll).1,
        (followedBy tracing ambient k (next + 1) poll).2) := by
  obtain ⟨entries, progress⟩ := poll
  cases progress with
  | pending rest => rfl
  | finished a =>
      have hnext : next + (Journal.spansOpened entries + 1) = next + 1 + Journal.spansOpened entries := by
        omega
      simp only [followedBy, spansOpened_opened, hnext]
      rfl

/-- **A poll of a job with a sequel** is a poll of the job, and of the sequel if the job ends. -/
theorem Balanced.advance_bind {t : Job α} {held : List OpenSpan} (ht : t.Balanced held.length)
    (k : α → Job β) (next : Nat) :
    (t.bind k).advance tracing ambient held next =
      followedBy tracing ambient k next (t.advance tracing ambient held next) := by
  induction t generalizing held next with
  | done a =>
      obtain rfl := List.eq_nil_of_length_eq_zero ht
      rfl
  | suspend n t ih =>
      show ([], Progress.pending ⟨(t.bind k).delayed n, held⟩) = _
      rw [← bind_delayed]
      rfl
  | emit e t ih =>
      rw [Job.bind, advance_emit, advance_emit, followedBy_cons _ _ rfl, ih ht]
  | record n v t ih =>
      rw [Job.bind, advance_record, advance_record, ih ht]
      cases held ++ ambient with
      | nil => rfl
      | cons s outer => exact (followedBy_cons tracing ambient rfl k next _).symm
  | invoke c t ih =>
      rw [Job.bind, advance_invoke, advance_invoke, followedBy_cons _ _ rfl, ih ht]
  | openSpan s t ih =>
      have ht : t.Balanced (spanAt tracing ambient held next s :: held).length := ht
      rw [Job.bind, advance_openSpan, advance_openSpan, followedBy_opened, ih ht]
  | closeSpan t ih =>
      obtain ⟨outer, hlength, ht⟩ := ht
      cases held with
      | nil => cases hlength
      | cons s held =>
          obtain rfl : held.length = outer := Nat.succ.inj hlength
          rw [Job.bind, advance_closeSpan_cons, advance_closeSpan_cons, followedBy_cons _ _ rfl, ih ht]
  | withHeaders f ih => exact ih _ (ht _) next

/-- What a poll leaves closes the spans that it holds. -/
theorem Balanced.of_advance {t : Job α} {held : List OpenSpan} (ht : t.Balanced held.length)
    {next : Nat} {rest : Running α} (h : (t.advance tracing ambient held next).2 = .pending rest) :
    rest.job.Balanced rest.held.length := by
  induction t generalizing held next with
  | done a => cases h
  | suspend n t ih =>
      cases h
      have ht : t.Balanced held.length := ht
      exact ht.delayed n
  | emit e t ih => exact ih ht h
  | record n v t ih =>
      rw [advance_record] at h
      exact ih ht h
  | invoke c t ih => exact ih ht h
  | openSpan s t ih =>
      have ht : t.Balanced (spanAt tracing ambient held next s :: held).length := ht
      exact ih ht h
  | closeSpan t ih =>
      obtain ⟨outer, hlength, ht⟩ := ht
      cases held with
      | nil => cases hlength
      | cons s held =>
          obtain rfl : held.length = outer := Nat.succ.inj hlength
          exact ih ht h
  | withHeaders f ih => exact ih _ (ht _) h

end Job

/-! ## Schedules -/

namespace Pool

/-- The result that an outcome tells of. -/
def Outcome.result? : Outcome α → Option α
  | finished a => some a
  | _ => none

/-- An outcome that is no end tells of no result. -/
theorem Outcome.result?_eq_none {o : Outcome α} (h : o.isEnd = false) : o.result? = none := by
  cases o <;> first | rfl | cases h

/-- The results that the outcomes of a schedule tell of. -/
def results (outcomes : List (Outcome α)) : List α := outcomes.filterMap Outcome.result?

theorem mem_results {outcomes : List (Outcome α)} {a : α} : a ∈ results outcomes ↔ .finished a ∈ outcomes := by
  unfold results
  rw [List.mem_filterMap]
  constructor
  · rintro ⟨o, ho, hresult⟩
    cases o <;> cases hresult
    exact ho
  · intro h
    exact ⟨_, h, rfl⟩

variable (tracing : Tracing)

/-- No results come of moves when the only slot is empty. -/
theorem results_of_empty {q : Pool α} (hq : q.slots = [none]) (moves : List Move) :
    results (q.outcomes tracing moves) = [] := by
  refine List.filterMap_eq_nil_iff.mpr fun o ho => ?_
  exact Outcome.result?_eq_none ((after_of_empty tracing hq moves).2 o ho).2

/-- When the only slot is empty, the same comes of moves in every such pool. -/
theorem outcomes_of_empty {q q' : Pool α} (hq : q.slots = [none]) (hq' : q'.slots = [none])
    (moves : List Move) : q'.outcomes tracing moves = q.outcomes tracing moves := by
  induction moves with
  | nil => rfl
  | cons m ms ih =>
      have hslots : q'.slots[m.slot]? = q.slots[m.slot]? := by rw [hq, hq']
      have hstep : (q'.step tracing m).1 = (q.step tracing m).1 := by
        match hslot : q.slots[m.slot]? with
        | none => rw [step_of_noSlot tracing hslot, step_of_noSlot tracing (hslots.trans hslot)]
        | some none => rw [step_of_over tracing hslot, step_of_over tracing (hslots.trans hslot)]
        | some (some r) => cases (eq_of_single hq hslot).2
      rw [outcomes_cons, outcomes_cons, hstep, (step_of_empty tracing hq m).1,
        (step_of_empty tracing hq' m).1, ih]

/-- The outcomes tell of one end at most: a result, or a drop. -/
def EndsOnce (outcomes : List (Outcome α)) : Prop :=
  results outcomes = [] ∨ ∃ a, results outcomes = [a] ∧ .dropped ∉ outcomes

/-- A move that does not end the job makes no difference to its end. -/
theorem EndsOnce.cons {os : List (Outcome α)} {o : Outcome α} (ho : o.isEnd = false) (h : EndsOnce os) :
    EndsOnce (o :: os) := by
  have hresults : results (o :: os) = results os :=
    List.filterMap_cons_none (Outcome.result?_eq_none ho)
  unfold EndsOnce at h ⊢
  rw [hresults]
  refine h.imp_right ?_
  rintro ⟨a, ha, hos⟩
  refine ⟨a, ha, fun hmem => ?_⟩
  rcases List.mem_cons.mp hmem with rfl | hmem
  · cases ho
  · exact hos hmem

/-- **A job comes to one end** at most, whatever the schedule. -/
theorem endsOnce_of_single {q : Pool α} {slot : Option (Running α)} (hq : q.slots = [slot])
    (moves : List Move) : EndsOnce (q.outcomes tracing moves) := by
  induction moves generalizing q slot with
  | nil => exact .inl rfl
  | cons m ms ih =>
      rw [outcomes_cons]
      match hslot : q.slots[m.slot]? with
      | none =>
          rw [step_of_noSlot tracing hslot]
          exact (ih hq).cons rfl
      | some none =>
          rw [step_of_over tracing hslot]
          exact (ih hq).cons rfl
      | some (some r) =>
          have hput := slots_put_single hq hslot
          rw [step_of_held tracing hslot]
          cases m with
          | drop i => exact .inl (results_of_empty tracing (hput none r.drop) ms)
          | poll i =>
              simp only [Running.move]
              cases r.poll tracing [] q.journal.spansOpened with
              | mk entries progress =>
                  cases progress with
                  | pending rest => exact (ih (hput (some rest) entries)).cons rfl
                  | finished a =>
                      -- the slot is empty from now on
                      have hlater := results_of_empty tracing (hput none entries) ms
                      refine .inr ⟨a, congrArg (a :: ·) hlater, fun hmem => ?_⟩
                      rcases List.mem_cons.mp hmem with hmem | hmem
                      · cases hmem
                      · cases ((after_of_empty tracing (hput none entries) ms).2 _ hmem).2

/-- The second pool has the job of the first with a sequel, and has seen the same so far. -/
structure HasSequel (k : α → Job α) (q q' : Pool α) (r : Running α) : Prop where
  slots : q.slots = [some r]
  slots' : q'.slots = [some ⟨r.job.bind k, r.held⟩]
  journal : q'.journal = q.journal
  balanced : r.job.Balanced r.held.length

section Sequel

variable {tracing} {k : α → Job α} {coda : α → List Entry} {q q' : Pool α} {r : Running α}

/-- **One move with and without the sequel**: the same comes of it, and the jobs both go on, or both are gone
and the sequel has written its part behind the end of the job. -/
theorem HasSequel.step (h : HasSequel k q q' r)
    (hk : ∀ a next, (k a).advance tracing [] [] next = (coda a, .finished a)) (m : Move) :
    (q'.step tracing m).1 = (q.step tracing m).1 ∧
      ((∃ r', HasSequel k (q.step tracing m).2 (q'.step tracing m).2 r' ∧
          (q.step tracing m).1.result? = none) ∨
        ((q.step tracing m).2.slots = [none] ∧ (q'.step tracing m).2.slots = [none] ∧
          (q'.step tracing m).2.journal =
            (q.step tracing m).2.journal ++ (results [(q.step tracing m).1]).flatMap coda)) := by
  by_cases hslot : m.slot = 0
  · have hheld : q.slots[m.slot]? = some (some r) := by
      rw [h.slots, hslot]
      rfl
    have hheld' : q'.slots[m.slot]? = some (some ⟨r.job.bind k, r.held⟩) := by
      rw [h.slots', hslot]
      rfl
    have hput := slots_put_single h.slots hheld
    have hput' := slots_put_single h.slots' hheld'
    rw [step_of_held tracing hheld, step_of_held tracing hheld', h.journal]
    cases m with
    | drop i =>
        refine ⟨rfl, .inr ⟨hput none (closings r.held), hput' none (closings r.held), ?_⟩⟩
        show q'.journal ++ closings r.held = q.journal ++ closings r.held ++ []
        rw [h.journal, List.append_nil]
    | poll i =>
        have hpoll := h.balanced.advance_bind tracing [] k q.journal.spansOpened
        have hrest : ∀ rest, (r.job.advance tracing [] r.held q.journal.spansOpened).2 = .pending rest →
            rest.job.Balanced rest.held.length := fun rest => h.balanced.of_advance tracing []
        simp only [Running.move, Running.poll]
        rw [hpoll]
        generalize r.job.advance tracing [] r.held q.journal.spansOpened = poll at hrest ⊢
        obtain ⟨entries, progress⟩ := poll
        cases progress with
        | pending rest =>
            refine ⟨rfl, .inl ⟨rest, ⟨hput (some rest) entries, hput' _ entries, ?_, hrest rest rfl⟩, rfl⟩⟩
            exact congrArg (· ++ entries) h.journal
        | finished a =>
            have hlast : Job.followedBy tracing [] k q.journal.spansOpened (entries, .finished a) =
                (entries ++ coda a, .finished a) := by
              simp only [Job.followedBy, hk]
            rw [hlast]
            refine ⟨rfl, .inr ⟨hput none entries, hput' none (entries ++ coda a), ?_⟩⟩
            show q'.journal ++ (entries ++ coda a) = q.journal ++ entries ++ (coda a ++ [])
            rw [h.journal, List.append_nil, List.append_assoc]
  · -- there is no other slot
    have hbeyond : 1 ≤ m.slot := Nat.one_le_iff_ne_zero.mpr hslot
    have hnone : q.slots[m.slot]? = none := by
      rw [h.slots]
      exact List.getElem?_eq_none hbeyond
    have hnone' : q'.slots[m.slot]? = none := by
      rw [h.slots']
      exact List.getElem?_eq_none hbeyond
    rw [step_of_noSlot tracing hnone, step_of_noSlot tracing hnone']
    exact ⟨rfl, .inl ⟨r, h, rfl⟩⟩

/-- **A schedule with and without the sequel**: the same comes of every move, and the journal with the sequel
has what the sequel writes behind the end of the job. -/
theorem HasSequel.run (h : HasSequel k q q' r)
    (hk : ∀ a next, (k a).advance tracing [] [] next = (coda a, .finished a)) (moves : List Move) :
    q'.outcomes tracing moves = q.outcomes tracing moves ∧
      (q'.after tracing moves).journal =
        (q.after tracing moves).journal ++ (results (q.outcomes tracing moves)).flatMap coda := by
  induction moves generalizing q q' r with
  | nil => exact ⟨rfl, h.journal.trans (List.append_nil _).symm⟩
  | cons m ms ih =>
      obtain ⟨hstep, ⟨r', hnext, hresult⟩ | ⟨hempty, hempty', hjournal⟩⟩ := h.step hk m
      · obtain ⟨houtcomes, hafter⟩ := ih hnext
        have hresults : results ((q.step tracing m).1 :: (q.step tracing m).2.outcomes tracing ms) =
            results ((q.step tracing m).2.outcomes tracing ms) := List.filterMap_cons_none hresult
        rw [after_cons, after_cons, outcomes_cons, outcomes_cons, hstep, houtcomes, hafter, hresults]
        exact ⟨rfl, rfl⟩
      · have hresults : results ((q.step tracing m).1 :: (q.step tracing m).2.outcomes tracing ms) =
            results [(q.step tracing m).1] := by
          have hlater := results_of_empty tracing hempty ms
          unfold results at hlater ⊢
          rw [List.filterMap_cons, List.filterMap_cons, hlater]
          rfl
        rw [after_cons, after_cons, outcomes_cons, outcomes_cons, hstep, hresults,
          outcomes_of_empty tracing hempty hempty' ms, (after_of_empty tracing hempty ms).1,
          (after_of_empty tracing hempty' ms).1]
        exact ⟨rfl, hjournal⟩

end Sequel

end Pool

end DeviceMessaging
