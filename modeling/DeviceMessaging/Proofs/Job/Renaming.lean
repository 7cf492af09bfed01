import DeviceMessaging.Proofs.Job.Course

/-!
# `Proofs.Job.Renaming` — a job under other span numbers

The number of a span depends on how many spans were opened before, by whomever. A job that neither asks
which span is current nor opens spans under it does the same under all numbers: its entries differ by a
renaming of the numbers, and its progress not at all.

## Contents
- `Job.SelfContained`, with the closure under `bind`, `delayed` and polls.
- `touchedBy`, `touched_advance`: a poll is only about spans that the job holds or opens.
- `advance_rename`: a poll under other numbers.
-/

namespace DeviceMessaging

/-! ## Closing spans -/

theorem closings_eq_map (held : List OpenSpan) : closings held = (numbers held).map Entry.closed := by
  simp [closings, numbers]

theorem closings_rename (tracing : Tracing) {ρ : Nat → Nat} {held held' : List OpenSpan}
    (h : numbers held' = (numbers held).map ρ) :
    closings held' = (closings held).map (Entry.rename tracing.ids ρ) := by
  rw [closings_eq_map, closings_eq_map, h, List.map_map, List.map_map]
  rfl

theorem spans_closings (held : List OpenSpan) : (closings held).flatMap Entry.spans = numbers held := by
  rw [closings_eq_map, List.flatMap_map]
  exact List.flatMap_singleton' _

namespace Job

variable {α β : Type}

/-! ## Self-contained jobs -/

/-- The job neither asks which span is current nor opens a span under it. -/
def SelfContained : Job α → Prop
  | done _ => True
  | suspend _ t => t.SelfContained
  | emit _ t => t.SelfContained
  | record _ _ t => t.SelfContained
  | invoke _ t => t.SelfContained
  | openSpan spec t => (∃ h, spec.parent = .headers h) ∧ t.SelfContained
  | closeSpan t => t.SelfContained
  | withHeaders _ => False

theorem SelfContained.bind {t : Job α} {k : α → Job β} (ht : t.SelfContained)
    (hk : ∀ a, (k a).SelfContained) : (t.bind k).SelfContained := by
  induction t with
  | done a => exact hk a
  | suspend n t ih => exact ih ht
  | emit e t ih => exact ih ht
  | record n v t ih => exact ih ht
  | invoke c t ih => exact ih ht
  | openSpan s t ih => exact ⟨ht.1, ih ht.2⟩
  | closeSpan t ih => exact ih ht
  | withHeaders f ih => exact ht.elim

theorem SelfContained.delayed {t : Job α} (ht : t.SelfContained) (n : Nat) :
    (t.delayed n).SelfContained := by
  cases n <;> exact ht

theorem SelfContained.inSpan {spec : SpanSpec} {body : Job α} (hspec : ∃ h, spec.parent = .headers h)
    (hbody : body.SelfContained) : (Job.inSpan spec body).SelfContained :=
  ⟨hspec, hbody.bind fun _ => trivial⟩

/-! ## Polls -/

variable (tracing : Tracing)

/-- The spans that are still held after a poll. -/
def heldAfter : Progress α → List OpenSpan
  | .pending r => r.held
  | .finished _ => []

/-- Number `n` is that of a span in `held`, or of one of the `opened` spans from `next` on. -/
def Touched (held : List OpenSpan) (next opened n : Nat) : Prop :=
  n ∈ numbers held ∨ next ≤ n ∧ n < next + opened

theorem Touched.of_opened {held : List OpenSpan} {span : OpenSpan} {next opened n : Nat}
    (hspan : span.number = next) (h : Touched (span :: held) (next + 1) opened n) :
    Touched held next (opened + 1) n := by
  rcases h with h | ⟨hle, hlt⟩
  · rcases List.mem_cons.mp h with rfl | h
    · exact .inr ⟨by omega, by omega⟩
    · exact .inl h
  · exact .inr ⟨by omega, by omega⟩

theorem Touched.of_closed {outer : List OpenSpan} {span : OpenSpan} {next opened n : Nat}
    (h : Touched outer next opened n) : Touched (span :: outer) next opened n :=
  h.imp_left (List.mem_cons_of_mem _)

/-- The numbers of the spans that a poll is about, or that are held after it. -/
def touchedBy (poll : List Entry × Progress α) : List Nat :=
  poll.1.flatMap Entry.spans ++ numbers (heldAfter poll.2)

theorem mem_touchedBy_cons {e : Entry} {poll : List Entry × Progress α} {n : Nat} :
    n ∈ touchedBy (e :: poll.1, poll.2) ↔ n ∈ e.spans ∨ n ∈ touchedBy poll := by
  simp [touchedBy]

/-- **A poll is only about spans that the job holds or opens.** -/
theorem touched_advance (t : Job α) {held : List OpenSpan} {next n : Nat}
    (h : n ∈ touchedBy (t.advance tracing [] held next)) :
    Touched held next (Journal.spansOpened (t.advance tracing [] held next).1) n := by
  induction t generalizing held next with
  | done a =>
      rw [advance_done, touchedBy, spans_closings] at h
      exact .inl ((List.mem_append.mp h).resolve_right List.not_mem_nil)
  | suspend m t ih => exact .inl h
  | emit e t ih =>
      rw [advance_emit, mem_touchedBy_cons, List.append_nil] at h
      rw [advance_emit, spansOpened_cons rfl]
      exact h.elim .inl ih
  | record name value t ih =>
      rw [advance_record, List.append_nil] at h ⊢
      cases held with
      | nil => exact ih h
      | cons s outer =>
          rw [recordedIn, List.singleton_append, mem_touchedBy_cons] at h
          rw [recordedIn, List.singleton_append, spansOpened_cons rfl]
          exact h.elim (fun h => .inl (by simp_all [Entry.spans, numbers])) ih
  | invoke c t ih =>
      rw [advance_invoke, mem_touchedBy_cons, List.append_nil] at h
      rw [advance_invoke, spansOpened_cons rfl]
      exact h.elim .inl ih
  | openSpan spec t ih =>
      -- the span is number `next`, and the rest of the poll opens those behind it
      rw [advance_openSpan, mem_touchedBy_cons] at h
      rw [advance_openSpan, spansOpened_opened]
      refine Touched.of_opened (number_spanAt tracing [] held next spec) (h.elim (fun h => .inl ?_) ih)
      exact List.mem_cons.mpr (.inl (List.mem_singleton.mp h))
  | closeSpan t ih =>
      cases held with
      | nil => exact ih h
      | cons s outer =>
          rw [advance_closeSpan_cons, mem_touchedBy_cons] at h
          rw [advance_closeSpan_cons, spansOpened_cons rfl]
          refine h.elim (fun h => .inl ?_) fun h => (ih h).of_closed
          exact List.mem_cons.mpr (.inl (List.mem_singleton.mp h))
  | withHeaders f ih => exact ih _ h

/-- One poll brings a job as far as another does, under other numbers for the spans still held. -/
inductive SameProgress (ρ : Nat → Nat) : Progress α → Progress α → Prop where
  | pending {r r' : Running α} (job : r'.job = r.job) (contained : r.job.SelfContained)
      (held : numbers r'.held = (numbers r.held).map ρ) : SameProgress ρ (.pending r) (.pending r')
  | finished (a : α) : SameProgress ρ (.finished a) (.finished a)

/-- **A poll under other numbers**: where the next spans get other numbers too, the entries are the same
but for the numbers, and so is the progress. -/
theorem advance_rename {t : Job α} (ht : t.SelfContained) {ρ : Nat → Nat} {held held' : List OpenSpan}
    {next next' : Nat} (hheld : numbers held' = (numbers held).map ρ)
    (hnext : ∀ k, ρ (next + k) = next' + k) :
    (t.advance tracing [] held' next').1 =
        (t.advance tracing [] held next).1.map (Entry.rename tracing.ids ρ) ∧
      SameProgress ρ (t.advance tracing [] held next).2 (t.advance tracing [] held' next').2 := by
  induction t generalizing held held' next next' with
  | done a => exact ⟨closings_rename tracing hheld, .finished a⟩
  | suspend n t ih =>
      have ht : t.SelfContained := ht
      exact ⟨rfl, .pending rfl (ht.delayed n) hheld⟩
  | emit e t ih =>
      obtain ⟨hentries, hprogress⟩ := ih ht hheld hnext
      rw [advance_emit, advance_emit, List.append_nil, List.append_nil, hentries, hheld]
      exact ⟨rfl, hprogress⟩
  | record name value t ih =>
      obtain ⟨hentries, hprogress⟩ := ih ht hheld hnext
      have hrecorded : recordedIn name value held' =
          (recordedIn name value held).map (Entry.rename tracing.ids ρ) := by
        cases held <;> cases held' <;> simp_all [numbers, recordedIn, Entry.rename]
      rw [advance_record, advance_record, List.append_nil, List.append_nil, hentries, hrecorded,
        List.map_append]
      exact ⟨rfl, hprogress⟩
  | invoke c t ih =>
      obtain ⟨hentries, hprogress⟩ := ih ht hheld hnext
      rw [advance_invoke, advance_invoke, List.append_nil, List.append_nil, hentries, hheld]
      exact ⟨rfl, hprogress⟩
  | openSpan spec t ih =>
      obtain ⟨⟨headers, hparent⟩, ht⟩ := ht
      have hzero : ρ next = next' := hnext 0
      have hsucc : ∀ k, ρ (next + 1 + k) = next' + 1 + k := fun k => by
        rw [Nat.add_assoc, hnext, Nat.add_assoc]
      have hopen : numbers (spanAt tracing [] held' next' spec :: held') =
          (numbers (spanAt tracing [] held next spec :: held)).map ρ := by
        simpa [numbers, hzero] using hheld
      -- headers name the same parent under all numbers
      have hspan : Entry.opened (spanAt tracing [] held' next' spec) spec
          (tracing.parent? (held' ++ []) spec.parent) =
          (Entry.opened (spanAt tracing [] held next spec) spec
            (tracing.parent? (held ++ []) spec.parent)).rename tracing.ids ρ := by
        simp only [Entry.rename, spanAt, hparent, Tracing.parent?, hzero]
      obtain ⟨hentries, hprogress⟩ := ih ht hopen hsucc
      rw [advance_openSpan, advance_openSpan, hentries, hspan]
      exact ⟨rfl, hprogress⟩
  | closeSpan t ih =>
      -- the held spans correspond one by one, so both jobs close their innermost one or none
      cases held with
      | nil =>
          obtain rfl : held' = [] := by simpa [numbers] using hheld
          exact ih ht rfl hnext
      | cons s outer =>
          cases held' with
          | nil => simp [numbers] at hheld
          | cons s' outer' =>
              obtain ⟨hs, houter⟩ := List.cons.inj hheld
              obtain ⟨hentries, hprogress⟩ := ih ht houter hnext
              rw [advance_closeSpan_cons, advance_closeSpan_cons, hentries, hs]
              exact ⟨rfl, hprogress⟩
  | withHeaders f ih =>
      -- the headers would carry an identity, which depends on the number
      exact ht.elim

end Job

end DeviceMessaging
