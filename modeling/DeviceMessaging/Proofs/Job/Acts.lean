import DeviceMessaging.Proofs.Job.Course
import DeviceMessaging.Proofs.Pool.Log

/-!
# `Proofs.Job.Acts` — what a job can do at all

A job acts on others in two ways: it calls a collaborator, or it opens a span. What a job can do is read off
its steps, whatever headers it gets to see, and no poll makes it do anything else. So a pool in which every
slot can only do what is allowed there stays such a pool, whatever the schedule.

## Contents
- `Act`, `Entry.act?`: acts, and the act that an entry tells of, with `Journal.mem_calls`.
- `Job.Can`, with `Job.Can.of_bind` and `Job.can_delayed`: what a job can do.
- `Job.can_of_advance`: a poll does what the job can do, and leaves a job that can do no more.
- `Pool.Keeps`, with `Pool.Keeps.step`, `Pool.Keeps.deed` and `Pool.Keeps.add`: what is allowed in a slot.
-/

namespace DeviceMessaging

/-! ## Acts -/

/-- What a job does that others notice. -/
inductive Act where
  | call (call : Call)
  | span (spec : SpanSpec)

/-- The act that an entry tells of. -/
def Entry.act? : Entry → Option Act
  | .called c _ => some (.call c)
  | .opened _ spec _ => some (.span spec)
  | _ => none

/-- The calls of a journal are the calls among its acts. -/
theorem Journal.mem_calls {j : Journal} {c : Call} :
    c ∈ Journal.calls j ↔ ∃ e ∈ j, e.act? = some (.call c) := by
  unfold Journal.calls
  rw [List.mem_filterMap]
  constructor
  · rintro ⟨e, he, hcall⟩
    refine ⟨e, he, ?_⟩
    cases e <;> cases hcall
    rfl
  · rintro ⟨e, he, hact⟩
    refine ⟨e, he, ?_⟩
    cases e <;> cases hact
    rfl

variable {α β : Type} {a : Act}

namespace Job

/-- The job has a step that does `a`, whatever headers it gets to see. -/
def Can (a : Act) : Job α → Prop
  | done _ => False
  | suspend _ t => t.Can a
  | emit _ t => t.Can a
  | record _ _ t => t.Can a
  | invoke c t => a = .call c ∨ t.Can a
  | openSpan spec t => a = .span spec ∨ t.Can a
  | closeSpan t => t.Can a
  | withHeaders f => ∃ h, (f h).Can a

/-- Jobs one behind the other do what one of them can do. -/
theorem Can.of_bind {t : Job α} {k : α → Job β} (h : (t.bind k).Can a) :
    t.Can a ∨ ∃ b, (k b).Can a := by
  induction t with
  | done b => exact .inr ⟨b, h⟩
  | suspend n t ih => exact ih h
  | emit e t ih => exact ih h
  | record n v t ih => exact ih h
  | invoke c t ih =>
      rcases h with h | h
      · exact .inl (.inl h)
      · exact (ih h).imp_left .inr
  | openSpan s t ih =>
      rcases h with h | h
      · exact .inl (.inl h)
      · exact (ih h).imp_left .inr
  | closeSpan t ih => exact ih h
  | withHeaders f ih =>
      obtain ⟨headers, h⟩ := h
      exact (ih headers h).imp_left fun h => ⟨headers, h⟩

theorem can_delayed {t : Job α} {n : Nat} : (t.delayed n).Can a ↔ t.Can a := by
  cases n <;> exact Iff.rfl

/-- Waiting for an answer does nothing. -/
theorem not_can_await (answer : Answer α) : ¬answer.await.Can a := by
  intro h
  rcases Can.of_bind h with h | ⟨b, h⟩
  · exact can_delayed.mp h
  · exact h

theorem act?_closings {held : List OpenSpan} {e : Entry} (h : e ∈ closings held) : e.act? = none := by
  obtain ⟨s, -, rfl⟩ := List.mem_map.mp h
  rfl

/-- What is left of a job after a poll can do `a`. -/
def leftCan (a : Act) : Progress α → Prop
  | .pending rest => rest.job.Can a
  | .finished _ => False

/-- **A poll does what the job can do**, and leaves a job that can do no more. -/
theorem can_of_advance {tracing : Tracing} {ambient : List OpenSpan} {t : Job α} {held : List OpenSpan}
    {next : Nat}
    (h : (∃ e ∈ (t.advance tracing ambient held next).1, e.act? = some a) ∨
      leftCan a (t.advance tracing ambient held next).2) : t.Can a := by
  -- an entry of a step in front is either no act, or the act of that step
  have hcons : ∀ {e : Entry} {rest : List Entry} {left : Prop}, e.act? ≠ some a →
      (∃ x ∈ e :: rest, x.act? = some a) ∨ left → (∃ x ∈ rest, x.act? = some a) ∨ left := by
    rintro e rest left he (⟨x, hx, hact⟩ | hleft)
    · rcases List.mem_cons.mp hx with rfl | hx
      · exact absurd hact he
      · exact .inl ⟨x, hx, hact⟩
    · exact .inr hleft
  induction t generalizing held next with
  | done b =>
      rcases h with ⟨e, he, hact⟩ | h
      · cases (act?_closings he).symm.trans hact
      · exact h
  | suspend n t ih =>
      rcases h with ⟨e, he, -⟩ | h
      · exact absurd he List.not_mem_nil
      · show t.Can a
        exact can_delayed.mp h
  | emit e t ih => exact ih (hcons (by simp [Entry.act?]) h)
  | record n v t ih =>
      rw [advance_record] at h
      cases hscope : held ++ ambient with
      | nil =>
          rw [hscope] at h
          exact ih h
      | cons s outer =>
          rw [hscope] at h
          exact ih (hcons (by simp [Entry.act?]) h)
  | invoke c t ih =>
      by_cases hc : a = .call c
      · exact .inl hc
      · refine .inr (ih (hcons ?_ h))
        intro hact
        exact hc (Option.some.inj hact).symm
  | openSpan s t ih =>
      by_cases hs : a = .span s
      · exact .inl hs
      · refine .inr (ih (hcons ?_ h))
        intro hact
        exact hs (Option.some.inj hact).symm
  | closeSpan t ih =>
      cases held with
      | nil => exact ih h
      | cons s outer => exact ih (hcons (by simp [Entry.act?]) h)
  | withHeaders f ih => exact ⟨_, ih _ h⟩

end Job

/-! ## Pools -/

variable (tracing : Tracing) {allowed : Nat → Act → Prop}

/-- A move does what the job can do, and leaves a job that can do no more. -/
theorem Running.can_of_move {r : Running α} {next : Nat} {m : Pool.Move}
    (h : (∃ e ∈ (r.move tracing next m).2.2, e.act? = some a) ∨
      ∃ rest, (r.move tracing next m).2.1 = some rest ∧ rest.job.Can a) : r.job.Can a := by
  cases m with
  | drop i =>
      rcases h with ⟨e, he, hact⟩ | ⟨rest, hrest, -⟩
      · cases (Job.act?_closings he).symm.trans hact
      · cases hrest
  | poll i =>
      rw [entries_move_poll] at h
      have hpoll : (∃ e ∈ (r.job.advance tracing [] r.held next).1, e.act? = some a) ∨
          Job.leftCan a (r.job.advance tracing [] r.held next).2 := by
        refine h.imp_right ?_
        rintro ⟨rest, hrest, hcan⟩
        rw [(move_poll_eq_some_iff tracing).mp hrest]
        exact hcan
      exact Job.can_of_advance hpoll

namespace Pool

/-- Every slot can only do what is allowed there. -/
def Keeps (allowed : Nat → Act → Prop) (p : Pool α) : Prop :=
  ∀ i r, p.slots[i]? = some (some r) → ∀ a, r.job.Can a → allowed i a

/-- **One move** leaves a pool in which every slot can only do what is allowed there. -/
theorem Keeps.step {p : Pool α} (h : p.Keeps allowed) (m : Move) :
    (p.step tracing m).2.Keeps allowed := by
  match hslot : p.slots[m.slot]? with
  | none =>
      rw [step_of_noSlot tracing hslot]
      exact h
  | some none =>
      rw [step_of_over tracing hslot]
      exact h
  | some (some r) =>
      rw [step_of_held tracing hslot]
      intro i rest hrest a hcan
      by_cases hi : i = m.slot
      · subst hi
        rw [slots_put_self hslot] at hrest
        exact h _ r hslot a (Running.can_of_move tracing (.inr ⟨rest, Option.some.inj hrest, hcan⟩))
      · rw [slots_put_of_ne hi] at hrest
        exact h i rest hrest a hcan

/-- A move does what is allowed in its slot. -/
theorem Keeps.deed {p : Pool α} (h : p.Keeps allowed) {m : Move} {e : Entry}
    (he : e ∈ (p.deed tracing m).entries) (hact : e.act? = some a) : allowed m.slot a := by
  obtain ⟨r, hslot, he⟩ := exists_held_of_mem_deed tracing he
  exact h _ r hslot a (Running.can_of_move tracing (.inl ⟨e, he, hact⟩))

/-- **A whole schedule** does in every slot what is allowed there. -/
theorem Keeps.log {p : Pool α} (h : p.Keeps allowed) (moves : List Move) :
    ∀ d ∈ p.log tracing moves, ∀ e ∈ d.entries, e.act? = some a → allowed d.slot a := by
  induction moves generalizing p with
  | nil => exact fun d hd => absurd hd List.not_mem_nil
  | cons m ms ih =>
      intro d hd e he hact
      rcases List.mem_cons.mp hd with rfl | hd
      · exact h.deed tracing he hact
      · exact ih (h.step tracing m) d hd e he hact

/-- A new slot may do what its job can do. -/
theorem Keeps.add {p : Pool α} (h : p.Keeps allowed) {job : Job α} (entries : List Entry)
    (hjob : ∀ a, job.Can a → allowed p.slots.length a) : (p.add job entries).Keeps allowed := by
  intro i r hr a hcan
  rcases getElem?_concat_eq_some hr with hold | ⟨rfl, hnew⟩
  · exact h i r hold a hcan
  · cases hnew
    exact hjob a hcan

/-- What is allowed may be more. -/
theorem Keeps.mono {allowed' : Nat → Act → Prop} {p : Pool α} (h : p.Keeps allowed)
    (himp : ∀ i a, allowed i a → allowed' i a) : p.Keeps allowed' :=
  fun i r hr a hcan => himp i a (h i r hr a hcan)

end Pool

end DeviceMessaging
