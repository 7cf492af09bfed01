import DeviceMessaging.Proofs.Job.Acts
import DeviceMessaging.Proofs.Trace.Ids
import DeviceMessaging.Proofs.Trace.RoundTrip

/-!
# `Proofs.Job.Openings` — the spans that a job opens

## Contents
- `Opening`, `Journal.openings`: the spans of a journal, as they were opened.
- `Job.openedNumbers_advance`, `Job.spanId_of_advance`: spans are numbered in their order, and the id of a
  span is that of its number.
- `Running.visit`, with `can_of_visit` and `openings_visit`: a job that is polled in one place after another.
- `Job.enter`, with `foldr_inSpan`, `advance_foldr_openSpan` and `isValid_enter`: a job within several spans.
-/

namespace DeviceMessaging

variable {α : Type}

/-! ## Openings -/

/-- A span as it was opened. -/
structure Opening where
  span : OpenSpan
  spec : SpanSpec
  parent : Option SpanContext

namespace Journal

/-- The opening that an entry tells of. -/
def opening : Entry → Option Opening
  | .opened span spec parent => some ⟨span, spec, parent⟩
  | _ => none

/-- The spans that were opened, in the order of their opening. -/
def openings (j : Journal) : List Opening := j.filterMap opening

theorem openings_append (a b : Journal) : openings (a ++ b) = openings a ++ openings b :=
  List.filterMap_append

theorem mem_openings {j : Journal} {o : Opening} :
    o ∈ openings j ↔ .opened o.span o.spec o.parent ∈ j := by
  unfold openings
  rw [List.mem_filterMap]
  constructor
  · rintro ⟨e, he, ho⟩
    cases e <;> cases ho
    exact he
  · intro h
    exact ⟨_, h, rfl⟩

/-- A journal that does nothing but what opens no span has no openings. -/
theorem openings_eq_nil {j : Journal} (h : ∀ e ∈ j, ∀ spec, e.act? ≠ some (.span spec)) :
    openings j = [] := by
  rw [List.eq_nil_iff_forall_not_mem]
  intro o ho
  exact h _ (mem_openings.mp ho) o.spec rfl

theorem openedNumbers_closings (held : List OpenSpan) : openedNumbers (closings held) = [] := by
  unfold openedNumbers
  rw [List.filterMap_eq_nil_iff]
  intro e he
  obtain ⟨s, -, rfl⟩ := List.mem_map.mp he
  rfl

theorem spansOpened_closings (held : List OpenSpan) : spansOpened (closings held) = 0 := by
  unfold spansOpened
  rw [List.countP_eq_zero]
  intro e he
  obtain ⟨s, -, rfl⟩ := List.mem_map.mp he
  exact Bool.false_ne_true

theorem mem_openedNumbers {j : Journal} {o : Opening} (h : o ∈ openings j) :
    o.span.number ∈ openedNumbers j :=
  List.mem_filterMap.mpr ⟨_, mem_openings.mp h, rfl⟩

end Journal

/-- The openings of a journal are as many as it counts. -/
theorem Journal.length_openings (j : Journal) : (openings j).length = spansOpened j := by
  induction j with
  | nil => rfl
  | cons e j ih =>
      cases e with
      | opened span spec parent =>
          rw [Job.spansOpened_opened, ← ih]
          rfl
      | recorded n name value =>
          rw [Job.spansOpened_cons rfl, ← ih]
          rfl
      | event e scope =>
          rw [Job.spansOpened_cons rfl, ← ih]
          rfl
      | called c scope =>
          rw [Job.spansOpened_cons rfl, ← ih]
          rfl
      | closed n =>
          rw [Job.spansOpened_cons rfl, ← ih]
          rfl

/-! ## Numbers -/

/-- **A poll numbers its spans** from the next number on. -/
theorem Job.openedNumbers_advance (tracing : Tracing) (ambient : List OpenSpan) (t : Job α)
    (held : List OpenSpan) (next : Nat) :
    Journal.openedNumbers (t.advance tracing ambient held next).1 =
      List.range' next (Journal.spansOpened (t.advance tracing ambient held next).1) := by
  induction t generalizing held next with
  | done a =>
      rw [advance_done, Journal.openedNumbers_closings, Journal.spansOpened_closings]
      rfl
  | suspend n t ih => rfl
  | emit e t ih =>
      rw [advance_emit, spansOpened_cons rfl]
      exact ih held next
  | record n v t ih =>
      rw [advance_record]
      cases held ++ ambient with
      | nil => exact ih held next
      | cons s outer =>
          show _ = List.range' next (Journal.spansOpened (_ :: _))
          rw [spansOpened_cons rfl]
          exact ih held next
  | invoke c t ih =>
      rw [advance_invoke, spansOpened_cons rfl]
      exact ih held next
  | openSpan spec t ih =>
      rw [advance_openSpan, spansOpened_opened, List.range'_succ]
      exact congrArg (next :: ·) (ih _ (next + 1))
  | closeSpan t ih =>
      cases held with
      | nil => exact ih [] next
      | cons s outer =>
          rw [advance_closeSpan_cons, spansOpened_cons rfl]
          exact ih outer next
  | withHeaders f ih => exact ih _ held next

/-- The id of a span is that of its number. -/
theorem Job.spanId_of_advance {tracing : Tracing} {ambient : List OpenSpan} {t : Job α}
    {held : List OpenSpan} {next : Nat} {o : Opening}
    (h : o ∈ Journal.openings (t.advance tracing ambient held next).1) :
    o.span.context.spanId = tracing.ids.spanId o.span.number := by
  rw [Journal.mem_openings] at h
  induction t generalizing held next with
  | done a =>
      obtain ⟨s, -, hs⟩ := List.mem_map.mp h
      cases hs
  | suspend n t ih => exact absurd h List.not_mem_nil
  | emit e t ih =>
      rw [advance_emit, List.mem_cons] at h
      rcases h with h | h
      · cases h
      · exact ih h
  | record n v t ih =>
      rw [advance_record, List.mem_append] at h
      rcases h with h | h
      · cases hscope : held ++ ambient with
        | nil =>
            rw [hscope] at h
            exact absurd h List.not_mem_nil
        | cons s outer =>
            rw [hscope] at h
            cases List.mem_singleton.mp h
      · exact ih h
  | invoke c t ih =>
      rw [advance_invoke, List.mem_cons] at h
      rcases h with h | h
      · cases h
      · exact ih h
  | openSpan spec t ih =>
      rw [advance_openSpan, List.mem_cons] at h
      rcases h with h | h
      · have hspan : o.span = spanAt tracing ambient held next spec := (Entry.opened.inj h).1
        rw [hspan]
        rfl
      · exact ih h
  | closeSpan t ih =>
      cases held with
      | nil => exact ih h
      | cons s outer =>
          rw [advance_closeSpan_cons, List.mem_cons] at h
          rcases h with h | h
          · cases h
          · exact ih h
  | withHeaders f ih => exact ih _ h

/-! ## Polls in several places -/

section Visit

variable {α : Type} (tracing : Tracing)

/-- The entries that a job writes when it is polled once in each of some places, each given by the spans that
are open there and the number of the next span. -/
def Running.visit : List (List OpenSpan × Nat) → Running α → List Entry
  | [], _ => []
  | (ambient, next) :: places, r =>
    match r.poll tracing ambient next with
    | (entries, .pending rest) => entries ++ visit places rest
    | (entries, .finished _) => entries

/-- A job does what it can do, wherever it is polled. -/
theorem Running.can_of_visit {places : List (List OpenSpan × Nat)} {r : Running α} {e : Entry} {a : Act}
    (he : e ∈ r.visit tracing places) (hact : e.act? = some a) : r.job.Can a := by
  induction places generalizing r with
  | nil => exact absurd he List.not_mem_nil
  | cons place places ih =>
      obtain ⟨ambient, next⟩ := place
      have hpoll := @Job.can_of_advance α a tracing ambient r.job r.held next
      simp only [visit, poll] at he
      cases hadvance : r.job.advance tracing ambient r.held next with
      | mk entries progress =>
          rw [hadvance] at he hpoll
          cases progress with
          | pending rest =>
              rcases List.mem_append.mp he with he | he
              · exact hpoll (.inl ⟨e, he, hact⟩)
              · exact hpoll (.inr (ih he))
          | finished b => exact hpoll (.inl ⟨e, he, hact⟩)

/-- A job that opens one span in front of all that it does opens no other, wherever it is polled. -/
theorem Running.openings_visit {event : Event} {spec : SpanSpec} {rest : Job α}
    (hrest : ∀ spec', ¬rest.Can (.span spec')) (place : List OpenSpan × Nat)
    (places : List (List OpenSpan × Nat)) :
    Journal.openings ((Job.emit event (.openSpan spec rest)).start.visit tracing (place :: places)) =
      [⟨Job.spanAt tracing place.1 [] place.2 spec, spec, tracing.parent? place.1 spec.parent⟩] := by
  obtain ⟨ambient, next⟩ := place
  have hpoll := fun a => @Job.can_of_advance α a tracing ambient rest
    [Job.spanAt tracing ambient [] next spec] (next + 1)
  simp only [visit, poll, Job.start, Job.advance_emit, Job.advance_openSpan, List.nil_append]
  cases hadvance : rest.advance tracing ambient [Job.spanAt tracing ambient [] next spec] (next + 1) with
  | mk entries progress =>
      rw [hadvance] at hpoll
      have hentries : Journal.openings entries = [] :=
        Journal.openings_eq_nil fun e he spec' hact => hrest spec' (hpoll _ (.inl ⟨e, he, hact⟩))
      cases progress with
      | pending left =>
          have hleft : Journal.openings (left.visit tracing places) = [] :=
            Journal.openings_eq_nil fun e he spec' hact =>
              hrest spec' (hpoll _ (.inr (left.can_of_visit tracing he hact)))
          show _ :: Journal.openings (entries ++ left.visit tracing places) = _
          rw [Journal.openings_append, hentries, hleft]
          rfl
      | finished b =>
          show _ :: Journal.openings entries = _
          rw [hentries]

end Visit

/-! ## Spans around a job -/

namespace Job

variable {α : Type} (tracing : Tracing)

/-- Closes the `n` innermost spans. -/
def leave (a : α) : Nat → Job α
  | 0 => done a
  | n + 1 => closeSpan (leave a n)

theorem not_can_leave {act : Act} {a : α} {n : Nat} : ¬(leave a n).Can act := by
  induction n with
  | zero => exact id
  | succ n ih => exact ih

theorem leave_bind_closeSpan (a : α) (n : Nat) :
    (leave a n).bind (fun b => closeSpan (done b)) = leave a (n + 1) := by
  induction n with
  | zero => rfl
  | succ n ih => exact congrArg closeSpan ih

theorem foldr_openSpan_bind {β : Type} (specs : List SpanSpec) (t : Job α) (k : α → Job β) :
    (specs.foldr openSpan t).bind k = specs.foldr openSpan (t.bind k) := by
  induction specs with
  | nil => rfl
  | cons spec specs ih => exact congrArg (openSpan spec) ih

/-- A job within several spans first opens all of them, and leaves them in the end. -/
theorem foldr_inSpan (specs : List SpanSpec) (t : Job α) :
    specs.foldr inSpan t = specs.foldr openSpan (t.bind fun a => leave a specs.length) := by
  induction specs with
  | nil => exact (bind_done t).symm
  | cons spec specs ih =>
      have hleave : (fun a => (leave a specs.length).bind fun b => closeSpan (done b)) =
          fun a : α => leave a (spec :: specs).length :=
        funext fun a => leave_bind_closeSpan a specs.length
      rw [List.foldr_cons, ih, inSpan, foldr_openSpan_bind, bind_assoc, hleave, List.foldr_cons]

/-- The entries by which a job opens several spans, and the spans that it then holds. -/
def enter : List SpanSpec → List OpenSpan → Nat → List Entry × List OpenSpan
  | [], held, _ => ([], held)
  | spec :: specs, held, next =>
    let (entries, inner) := enter specs (spanAt tracing [] held next spec :: held) (next + 1)
    (.opened (spanAt tracing [] held next spec) spec (tracing.parent? held spec.parent) :: entries, inner)

theorem advance_foldr_openSpan (specs : List SpanSpec) (t : Job α) (held : List OpenSpan) (next : Nat) :
    (specs.foldr openSpan t).advance tracing [] held next =
      let rest := t.advance tracing [] (enter tracing specs held next).2 (next + specs.length)
      ((enter tracing specs held next).1 ++ rest.1, rest.2) := by
  induction specs generalizing held next with
  | nil => rfl
  | cons spec specs ih =>
      have hnext : next + 1 + specs.length = next + (spec :: specs).length := by
        rw [List.length_cons]
        omega
      rw [List.foldr_cons, advance_openSpan, ih, hnext, List.append_nil]
      rfl

theorem map_spec_enter (specs : List SpanSpec) (held : List OpenSpan) (next : Nat) :
    (Journal.openings (enter tracing specs held next).1).map Opening.spec = specs := by
  induction specs generalizing held next with
  | nil => rfl
  | cons spec specs ih => exact congrArg (spec :: ·) (ih _ _)

/-- All that happens while spans are opened is that they open. -/
theorem calls_enter (specs : List SpanSpec) (held : List OpenSpan) (next : Nat) :
    Journal.calls (enter tracing specs held next).1 = [] := by
  induction specs generalizing held next with
  | nil => rfl
  | cons spec specs ih => exact ih _ _

/-- A span that is opened where only valid spans are open is valid. -/
theorem isValid_spanAt {tracing : Tracing} {count : Nat} (hids : tracing.ids.Proper count)
    {held : List OpenSpan} (hheld : ∀ s ∈ held, s.context.isValid = true) {next : Nat}
    (hnext : next < count) (spec : SpanSpec) : (spanAt tracing [] held next spec).context.isValid = true := by
  refine IdSource.isValid_context hids hnext ?_
  intro c hc
  cases hsource : spec.parent with
  | headers hs =>
      rw [hsource] at hc
      exact Propagator.isValid_of_parent? hc
  | current =>
      rw [hsource, List.append_nil] at hc
      obtain ⟨s, hs, rfl⟩ := Option.map_eq_some_iff.mp hc
      exact hheld s (List.mem_of_mem_head? hs)

theorem isValid_enter {tracing : Tracing} {count : Nat} (hids : tracing.ids.Proper count)
    (specs : List SpanSpec) {held : List OpenSpan} (hheld : ∀ s ∈ held, s.context.isValid = true)
    {next : Nat} (hnext : next + specs.length ≤ count) :
    ∀ s ∈ (enter tracing specs held next).2, s.context.isValid = true := by
  induction specs generalizing held next with
  | nil => exact hheld
  | cons spec specs ih =>
      rw [List.length_cons] at hnext
      refine ih ?_ (by omega)
      intro s hs
      rcases List.mem_cons.mp hs with rfl | hs
      · exact isValid_spanAt hids hheld (by omega) spec
      · exact hheld s hs

end Job

end DeviceMessaging
