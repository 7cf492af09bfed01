import DeviceMessaging.Proofs.Job.Course

/-!
# `Proofs.Job.Reported` — a job that makes one call more

A job can be watched by letting it make a call more, by which it reports what it is about to do. A poll of the
watched job does what the poll of the job does, and the only difference is the entry of the report.

## Contents
- `Journal.Reported`: a journal with one call more.
- `Job.Reported`, with `Job.Reported.bind`: a job with one call more, behind a number of suspensions.
- `Job.PollsCompare` and `Job.Reported.advance`: a poll of both jobs.
- `Job.Silent`, with `Job.Silent.bind` and `Job.Silent.advance`: a job that only opens and closes spans.
-/

namespace DeviceMessaging

variable {α β : Type} {C : Call → Prop}

/-! ## Journals -/

/-- The second journal is the first one with one call more, and `C` holds of the call. -/
def Journal.Reported (C : Call → Prop) (j j' : Journal) : Prop :=
  ∃ before call scope after, C call ∧ j = before ++ after ∧ j' = before ++ .called call scope :: after

namespace Journal.Reported

variable {j j' : Journal}

theorem append_left (h : Reported C j j') (front : List Entry) : Reported C (front ++ j) (front ++ j') := by
  obtain ⟨before, call, scope, after, hcall, rfl, rfl⟩ := h
  exact ⟨front ++ before, call, scope, after, hcall, (List.append_assoc _ _ _).symm,
    (List.append_assoc _ _ _).symm⟩

theorem append_right (h : Reported C j j') (back : List Entry) : Reported C (j ++ back) (j' ++ back) := by
  obtain ⟨before, call, scope, after, hcall, rfl, rfl⟩ := h
  exact ⟨before, call, scope, after ++ back, hcall, List.append_assoc _ _ _, List.append_assoc _ _ _⟩

theorem spansOpened_eq (h : Reported C j j') : Journal.spansOpened j' = Journal.spansOpened j := by
  obtain ⟨before, call, scope, after, -, rfl, rfl⟩ := h
  rw [Journal.spansOpened_append, Journal.spansOpened_append, Job.spansOpened_cons rfl]

/-- What is in the longer journal is the report, or is in the shorter one. -/
theorem mem {e : Entry} (h : Reported C j j') (he : e ∈ j') :
    (∃ call scope, C call ∧ e = .called call scope) ∨ e ∈ j := by
  obtain ⟨before, call, scope, after, hcall, rfl, rfl⟩ := h
  rcases List.mem_append.mp he with he | he
  · exact .inr (List.mem_append_left after he)
  · rcases List.mem_cons.mp he with rfl | he
    · exact .inl ⟨call, scope, hcall, rfl⟩
    · exact .inr (List.mem_append_right before he)

end Journal.Reported

/-! ## Jobs with a report -/

namespace Job

/-- The second job is the first one with one call more, of which `C` holds, behind `wait` suspensions. -/
inductive Reported (C : Call → Prop) : Nat → Job α → Job α → Prop where
  | call {t : Job α} {c : Call} (hc : C c) : Reported C 0 t (.invoke c t)
  | suspend {wait : Nat} {t t' : Job α} (h : Reported C wait t t') :
      Reported C (wait + 1) (.suspend 0 t) (.suspend 0 t')
  | openSpan {wait : Nat} {t t' : Job α} (spec : SpanSpec) (h : Reported C wait t t') :
      Reported C wait (.openSpan spec t) (.openSpan spec t')
  | withHeaders {wait : Nat} {f f' : Headers → Job α} (h : ∀ headers, Reported C wait (f headers) (f' headers)) :
      Reported C wait (.withHeaders f) (.withHeaders f')

/-- What comes behind both jobs makes no difference. -/
theorem Reported.bind {wait : Nat} {t t' : Job α} (h : Reported C wait t t') (k : α → Job β) :
    Reported C wait (t.bind k) (t'.bind k) := by
  induction h with
  | call hc => exact .call hc
  | suspend h ih => exact .suspend ih
  | openSpan spec h ih => exact .openSpan spec ih
  | withHeaders h ih => exact .withHeaders ih

theorem Reported.mono {C' : Call → Prop} {wait : Nat} {t t' : Job α} (h : Reported C wait t t')
    (himp : ∀ c, C c → C' c) : Reported C' wait t t' := by
  induction h with
  | call hc => exact .call (himp _ hc)
  | suspend h ih => exact .suspend ih
  | openSpan spec h ih => exact .openSpan spec ih
  | withHeaders h ih => exact .withHeaders ih

/-- How the polls of two jobs compare, the second of which makes one call more behind `wait` suspensions. -/
inductive PollsCompare (C : Call → Prop) :
    Nat → List Entry × Progress α → List Entry × Progress α → Prop where
  /-- The poll comes too early for the call. -/
  | early {wait : Nat} {entries : List Entry} {t t' : Job α} {held : List OpenSpan}
      (h : Reported C wait t t') :
      PollsCompare C (wait + 1) (entries, .pending ⟨t, held⟩) (entries, .pending ⟨t', held⟩)
  /-- The call is made, and from there on the jobs are the same. -/
  | reported {entries entries' : List Entry} {progress : Progress α}
      (h : Journal.Reported C entries entries') : PollsCompare C 0 (entries, progress) (entries', progress)

theorem PollsCompare.cons {wait : Nat} {poll poll' : List Entry × Progress α} (e : Entry)
    (h : PollsCompare C wait poll poll') :
    PollsCompare C wait (e :: poll.1, poll.2) (e :: poll'.1, poll'.2) := by
  cases h with
  | early h => exact .early h
  | reported h => exact .reported (h.append_left [e])

/-- **A poll of both jobs.** -/
theorem Reported.advance (tracing : Tracing) (ambient : List OpenSpan) {wait : Nat} {t t' : Job α}
    (h : Reported C wait t t') (held : List OpenSpan) (next : Nat) :
    PollsCompare C wait (t.advance tracing ambient held next) (t'.advance tracing ambient held next) := by
  induction h generalizing held next with
  | @call t c hc =>
      have hreport : Journal.Reported C (t.advance tracing ambient held next).1
          (.called c (numbers (held ++ ambient)) :: (t.advance tracing ambient held next).1) :=
        ⟨[], c, _, _, hc, rfl, rfl⟩
      exact .reported hreport
  | suspend h ih => exact .early h
  | openSpan spec h ih =>
      rw [advance_openSpan, advance_openSpan]
      exact (ih _ _).cons _
  | withHeaders h ih => exact ih _ held next

/-! ## Jobs that only open and close spans -/

/-- The job does nothing but open and close spans, and ends with `a`. -/
def Silent (a : α) : Job α → Prop
  | done b => b = a
  | suspend _ t => t.Silent a
  | emit _ _ => False
  | record _ _ _ => False
  | invoke _ _ => False
  | openSpan _ t => t.Silent a
  | closeSpan t => t.Silent a
  | withHeaders f => ∀ h, (f h).Silent a

/-- Silent jobs one behind the other. -/
theorem Silent.bind {t : Job α} {a : α} {k : α → Job β} {b : β} (ht : t.Silent a) (hk : (k a).Silent b) :
    (t.bind k).Silent b := by
  induction t with
  | done a' =>
      obtain rfl : a' = a := ht
      exact hk
  | suspend n t ih => exact ih ht
  | emit e t ih => exact ht.elim
  | record n v t ih => exact ht.elim
  | invoke c t ih => exact ht.elim
  | openSpan s t ih => exact ih ht
  | closeSpan t ih => exact ih ht
  | withHeaders f ih => exact fun h => ih h (ht h)

end Job

/-- The entry opens or closes a span. -/
def Entry.isSpan : Entry → Bool
  | opened .. => true
  | closed _ => true
  | _ => false

theorem isSpan_of_mem_closings {held : List OpenSpan} {e : Entry} (he : e ∈ closings held) :
    e.isSpan = true := by
  obtain ⟨s, -, rfl⟩ := List.mem_map.mp he
  rfl

namespace Job

/-- What is left of a job after a poll does nothing but open and close spans, and ends with `a`. -/
def leftSilent (a : α) : Progress α → Prop
  | .pending rest => rest.job.Silent a
  | .finished b => b = a

/-- **A poll of a silent job** opens and closes spans, and leaves a silent job. -/
theorem Silent.advance (tracing : Tracing) (ambient : List OpenSpan) {a : α} {t : Job α} (h : t.Silent a)
    (held : List OpenSpan) (next : Nat) :
    (∀ e ∈ (t.advance tracing ambient held next).1, e.isSpan = true) ∧
      leftSilent a (t.advance tracing ambient held next).2 := by
  induction t generalizing held next with
  | done b => exact ⟨fun e he => isSpan_of_mem_closings he, h⟩
  | suspend n t ih =>
      refine ⟨fun e he => absurd he List.not_mem_nil, ?_⟩
      have ht : t.Silent a := h
      show (t.delayed n).Silent a
      cases n <;> exact ht
  | emit e t ih => exact h.elim
  | record n v t ih => exact h.elim
  | invoke c t ih => exact h.elim
  | openSpan s t ih =>
      obtain ⟨hentries, hleft⟩ := ih h (spanAt tracing ambient held next s :: held) (next + 1)
      refine ⟨fun e he => ?_, hleft⟩
      rcases List.mem_cons.mp he with rfl | he
      · rfl
      · exact hentries e he
  | closeSpan t ih =>
      cases held with
      | nil => exact ih h [] next
      | cons s outer =>
          obtain ⟨hentries, hleft⟩ := ih h outer next
          refine ⟨fun e he => ?_, hleft⟩
          rcases List.mem_cons.mp he with rfl | he
          · rfl
          · exact hentries e he
  | withHeaders f ih => exact ih _ (h _) held next

end Job

end DeviceMessaging
