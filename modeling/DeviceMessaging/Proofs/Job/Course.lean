import DeviceMessaging.Job
import DeviceMessaging.Proofs.Journal

/-!
# `Proofs.Job.Course` — what a job does from its beginning to its end

A job that is polled until it ends takes one course, however often it is suspended on the way. The course
of a job that goes on with another is the one course behind the other, so the courses of composed jobs
are computed piece by piece, and a single poll covers a first part of the course.

## Contents
- `Job.Ending` and `Job.course`, with one equation for each step, `course_bind` and `course_inSpan`.
- `run_eq_course`, `complete_eq_course`: the course decides every run to the end.
- `Job.resume`, `complete_eq_resume`: a poll, and the rest of the way.
-/

namespace DeviceMessaging

/-! ## Courses -/

/-- Where a job ends: its result, the spans that it still holds, and the number of the next span. -/
structure Job.Ending (α : Type) where
  result : α
  held : List OpenSpan
  next : Nat

namespace Job

variable {α β ω : Type} (tracing : Tracing) (ambient : List OpenSpan)

/-- The entries that a job writes up to its end, and its ending. -/
def course : Job α → List OpenSpan → Nat → List Entry × Ending α :=
  run tracing ambient (fun a held next => ([], ⟨a, held, next⟩)) fun _ goOn => goOn ()

@[simp] theorem course_done (a : α) (held : List OpenSpan) (next : Nat) :
    (done a).course tracing ambient held next = ([], ⟨a, held, next⟩) := rfl

@[simp] theorem course_suspend (n : Nat) (t : Job α) (held : List OpenSpan) (next : Nat) :
    (suspend n t).course tracing ambient held next = t.course tracing ambient held next := rfl

@[simp] theorem course_delayed (t : Job α) (n : Nat) (held : List OpenSpan) (next : Nat) :
    (t.delayed n).course tracing ambient held next = t.course tracing ambient held next := by
  cases n <;> rfl

@[simp] theorem course_emit (e : Event) (t : Job α) (held : List OpenSpan) (next : Nat) :
    (emit e t).course tracing ambient held next =
      (.event e (numbers (held ++ ambient)) :: (t.course tracing ambient held next).1,
        (t.course tracing ambient held next).2) := rfl

@[simp] theorem course_record (name value : String) (t : Job α) (s : OpenSpan) (held : List OpenSpan)
    (next : Nat) :
    (record name value t).course tracing ambient (s :: held) next =
      (.recorded s.number name value :: (t.course tracing ambient (s :: held) next).1,
        (t.course tracing ambient (s :: held) next).2) := rfl

@[simp] theorem course_invoke (c : Call) (t : Job α) (held : List OpenSpan) (next : Nat) :
    (invoke c t).course tracing ambient held next =
      (.called c (numbers (held ++ ambient)) :: (t.course tracing ambient held next).1,
        (t.course tracing ambient held next).2) := rfl

/-- The span that a job opens under a number. -/
def spanAt (held : List OpenSpan) (next : Nat) (spec : SpanSpec) : OpenSpan :=
  ⟨next, tracing.ids.context next (tracing.parent? (held ++ ambient) spec.parent)⟩

@[simp] theorem number_spanAt (held : List OpenSpan) (next : Nat) (spec : SpanSpec) :
    (spanAt tracing ambient held next spec).number = next := rfl

@[simp] theorem course_openSpan (spec : SpanSpec) (t : Job α) (held : List OpenSpan) (next : Nat) :
    (openSpan spec t).course tracing ambient held next =
      (.opened (spanAt tracing ambient held next spec) spec
          (tracing.parent? (held ++ ambient) spec.parent) ::
          (t.course tracing ambient (spanAt tracing ambient held next spec :: held) (next + 1)).1,
        (t.course tracing ambient (spanAt tracing ambient held next spec :: held) (next + 1)).2) := rfl

@[simp] theorem course_closeSpan (t : Job α) (s : OpenSpan) (outer : List OpenSpan) (next : Nat) :
    (closeSpan t).course tracing ambient (s :: outer) next =
      (.closed s.number :: (t.course tracing ambient outer next).1,
        (t.course tracing ambient outer next).2) := rfl

@[simp] theorem course_withHeaders (f : Headers → Job α) (held : List OpenSpan) (next : Nat) :
    (withHeaders f).course tracing ambient held next =
      (f (tracing.propagator.inject ((held ++ ambient).head?.map OpenSpan.context))).course tracing
        ambient held next := rfl

/-! ## Runs to the end -/

/-- What is done at the end comes behind the course. -/
theorem run_eq_course (ended : α → List OpenSpan → Nat → List Entry × ω) (t : Job α)
    (held : List OpenSpan) (next : Nat) :
    t.run tracing ambient ended (fun _ goOn => goOn ()) held next =
      let (entries, e) := t.course tracing ambient held next
      (entries ++ (ended e.result e.held e.next).1, (ended e.result e.held e.next).2) := by
  induction t generalizing held next with
  | done a => rfl
  | suspend n t ih => exact ih held next
  | emit e t ih => simp [run, ih]
  | record n v t ih =>
      simp only [course, run] at ih ⊢
      cases hscope : held ++ ambient <;> simp [ih]
  | invoke c t ih => simp [run, ih]
  | openSpan s t ih => simp [run, ih, spanAt]
  | closeSpan t ih =>
      cases held with
      | nil => exact ih [] next
      | cons s outer => simp [run, ih]
  | withHeaders f ih => exact ih _ held next

/-- **The course of a job that goes on with another.** -/
theorem course_bind (t : Job α) (k : α → Job β) (held : List OpenSpan) (next : Nat) :
    (t.bind k).course tracing ambient held next =
      let (entries, e) := t.course tracing ambient held next
      (entries ++ ((k e.result).course tracing ambient e.held e.next).1,
        ((k e.result).course tracing ambient e.held e.next).2) := by
  rw [course, run_bind]
  exact run_eq_course tracing ambient _ t held next

/-- **The course of a job in a span of its own**, when the job leaves the open spans as they are. -/
theorem course_inSpan {spec : SpanSpec} {body : Job α} {held : List OpenSpan} {next after : Nat}
    {entries : List Entry} {a : α}
    (hbody : body.course tracing ambient (spanAt tracing ambient held next spec :: held) (next + 1) =
      (entries, ⟨a, spanAt tracing ambient held next spec :: held, after⟩)) :
    (inSpan spec body).course tracing ambient held next =
      (.opened (spanAt tracing ambient held next spec) spec
          (tracing.parent? (held ++ ambient) spec.parent) :: (entries ++ [.closed next]),
        ⟨a, held, after⟩) := by
  rw [inSpan, course_openSpan]
  simp only [course_bind, hbody, course_closeSpan, course_done, number_spanAt]

theorem complete_eq_course (t : Job α) (held : List OpenSpan) (next : Nat) :
    t.complete tracing ambient held next =
      let (entries, e) := t.course tracing ambient held next
      (entries ++ closings e.held, e.result) :=
  run_eq_course tracing ambient _ t held next

/-! ## One poll and the rest of the way -/

@[simp] theorem advance_done (a : α) (held : List OpenSpan) (next : Nat) :
    (done a).advance tracing ambient held next = (closings held, .finished a) := rfl

@[simp] theorem advance_suspend (n : Nat) (t : Job α) (held : List OpenSpan) (next : Nat) :
    (suspend n t).advance tracing ambient held next = ([], .pending ⟨t.delayed n, held⟩) := rfl

@[simp] theorem advance_emit (e : Event) (t : Job α) (held : List OpenSpan) (next : Nat) :
    (emit e t).advance tracing ambient held next =
      (.event e (numbers (held ++ ambient)) :: (t.advance tracing ambient held next).1,
        (t.advance tracing ambient held next).2) := rfl

/-- The entry of a recorded value, if a span is open that can take it. -/
def recordedIn (name value : String) : List OpenSpan → List Entry
  | [] => []
  | s :: _ => [.recorded s.number name value]

@[simp] theorem advance_record (name value : String) (t : Job α) (held : List OpenSpan) (next : Nat) :
    (record name value t).advance tracing ambient held next =
      (recordedIn name value (held ++ ambient) ++ (t.advance tracing ambient held next).1,
        (t.advance tracing ambient held next).2) := by
  simp only [advance, run]
  cases held ++ ambient <;> rfl

@[simp] theorem advance_invoke (c : Call) (t : Job α) (held : List OpenSpan) (next : Nat) :
    (invoke c t).advance tracing ambient held next =
      (.called c (numbers (held ++ ambient)) :: (t.advance tracing ambient held next).1,
        (t.advance tracing ambient held next).2) := rfl

@[simp] theorem advance_openSpan (spec : SpanSpec) (t : Job α) (held : List OpenSpan) (next : Nat) :
    (openSpan spec t).advance tracing ambient held next =
      (.opened (spanAt tracing ambient held next spec) spec
          (tracing.parent? (held ++ ambient) spec.parent) ::
          (t.advance tracing ambient (spanAt tracing ambient held next spec :: held) (next + 1)).1,
        (t.advance tracing ambient (spanAt tracing ambient held next spec :: held) (next + 1)).2) := rfl

@[simp] theorem advance_closeSpan_nil (t : Job α) (next : Nat) :
    (closeSpan t).advance tracing ambient [] next = t.advance tracing ambient [] next := rfl

@[simp] theorem advance_closeSpan_cons (t : Job α) (s : OpenSpan) (outer : List OpenSpan)
    (next : Nat) :
    (closeSpan t).advance tracing ambient (s :: outer) next =
      (.closed s.number :: (t.advance tracing ambient outer next).1,
        (t.advance tracing ambient outer next).2) := rfl

@[simp] theorem advance_withHeaders (f : Headers → Job α) (held : List OpenSpan) (next : Nat) :
    (withHeaders f).advance tracing ambient held next =
      (f (tracing.propagator.inject ((held ++ ambient).head?.map OpenSpan.context))).advance tracing
        ambient held next := rfl

/-- What is left of the way to the end after a poll that wrote `entries`. -/
def resume (entries : List Entry) (next : Nat) : Progress α → List Entry × α
  | .finished a => (entries, a)
  | .pending r =>
    let rest := r.job.complete tracing ambient r.held (next + Journal.spansOpened entries)
    (entries ++ rest.1, rest.2)

theorem spansOpened_cons {e : Entry} (he : e.isOpened = false) (j : Journal) :
    Journal.spansOpened (e :: j) = Journal.spansOpened j :=
  List.countP_cons_of_neg (by simp [he])

theorem spansOpened_opened (s : OpenSpan) (spec : SpanSpec) (parent : Option SpanContext) (j : Journal) :
    Journal.spansOpened (.opened s spec parent :: j) = Journal.spansOpened j + 1 :=
  List.countP_cons_of_pos rfl

theorem resume_cons {e : Entry} (he : e.isOpened = false) (entries : List Entry) (next : Nat)
    (p : Progress α) :
    resume tracing ambient (e :: entries) next p =
      (e :: (resume tracing ambient entries next p).1, (resume tracing ambient entries next p).2) := by
  cases p with
  | finished a => rfl
  | pending r => simp [resume, spansOpened_cons he]

theorem resume_opened (s : OpenSpan) (spec : SpanSpec) (parent : Option SpanContext)
    (entries : List Entry) (next : Nat) (p : Progress α) :
    resume tracing ambient (.opened s spec parent :: entries) next p =
      (.opened s spec parent :: (resume tracing ambient entries (next + 1) p).1,
        (resume tracing ambient entries (next + 1) p).2) := by
  cases p with
  | finished a => rfl
  | pending r => simp [resume, spansOpened_opened, Nat.add_assoc, Nat.add_comm 1]

/-- **A poll covers the first part of the way to the end.** -/
theorem complete_eq_resume (t : Job α) (held : List OpenSpan) (next : Nat) :
    t.complete tracing ambient held next =
      resume tracing ambient (t.advance tracing ambient held next).1 next
        (t.advance tracing ambient held next).2 := by
  -- the poll stops at the first suspension; what is left there is the job without it
  induction t generalizing held next with
  | done a => rfl
  | suspend n t ih =>
      simp only [resume, advance, run, Journal.spansOpened, List.countP_nil, Nat.add_zero,
        List.nil_append, complete_delayed]
      rfl
  | emit e t ih => simp only [complete, advance, run] at ih ⊢; rw [resume_cons _ _ rfl, ← ih]
  | record n v t ih =>
      simp only [complete, advance, run] at ih ⊢
      cases held ++ ambient with
      | nil => exact ih held next
      | cons s outer => rw [resume_cons _ _ rfl, ← ih]
  | invoke c t ih => simp only [complete, advance, run] at ih ⊢; rw [resume_cons _ _ rfl, ← ih]
  | openSpan s t ih => simp only [complete, advance, run] at ih ⊢; rw [resume_opened, ← ih]
  | closeSpan t ih =>
      cases held with
      | nil => exact ih [] next
      | cons s outer => simp only [complete, advance, run] at ih ⊢; rw [resume_cons _ _ rfl, ← ih]
  | withHeaders f ih => exact ih _ held next

end Job

@[simp] theorem Journal.calls_closings (held : List OpenSpan) : Journal.calls (closings held) = [] := by
  induction held with
  | nil => rfl
  | cons s held ih => exact ih

end DeviceMessaging
