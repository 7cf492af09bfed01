import DeviceMessaging.Journal

/-!
# `Proofs.Journal` — views of a journal

A journal is read in views: the calls it tells of, and what it says about one span. The numbers of spans
are names that a journal can exchange for others without saying anything else.

## Contents
- `Journal.calls`: the calls.
- `Entry.spans`, `Entry.rename`, with `Entry.rename_congr`.
- `Journal.openedNumbers`, `Journal.about`, `Journal.eventsIn`: the spans, and what there is about one.
- `Journal.spanView?`: a span but for its number and its identity.
- `spanView?_about`: the view of a span needs only the entries about it.
- `spanView?_rename`: the view of a span is the same under another number.
-/

namespace DeviceMessaging

/-! ## Calls -/

namespace Journal

/-- The call that an entry tells of. -/
def call? : Entry → Option Call
  | .called c _ => some c
  | _ => none

/-- The calls that a journal tells of, oldest first. -/
def calls (j : Journal) : List Call := j.filterMap call?

@[simp] theorem calls_nil : calls [] = [] := rfl

@[simp] theorem calls_append (a b : Journal) : calls (a ++ b) = calls a ++ calls b :=
  List.filterMap_append

@[simp] theorem calls_called (c : Call) (scope : List Nat) (j : Journal) :
    calls (.called c scope :: j) = c :: calls j := rfl

@[simp] theorem calls_event (e : Event) (scope : List Nat) (j : Journal) :
    calls (.event e scope :: j) = calls j := rfl

@[simp] theorem calls_recorded (n : Nat) (name value : String) (j : Journal) :
    calls (.recorded n name value :: j) = calls j := rfl

@[simp] theorem calls_opened (s : OpenSpan) (spec : SpanSpec) (parent : Option SpanContext)
    (j : Journal) : calls (.opened s spec parent :: j) = calls j := rfl

@[simp] theorem calls_closed (n : Nat) (j : Journal) : calls (.closed n :: j) = calls j := rfl

end Journal

/-! ## Numbers of spans -/

namespace Entry

/-- The numbers of the spans that an entry is about. -/
def spans : Entry → List Nat
  | opened span _ _ => [span.number]
  | recorded n _ _ => [n]
  | event _ scope => scope
  | called _ scope => scope
  | closed n => [n]

/-- The entry under other numbers, and with the identities that the spans have under these. -/
def rename (ids : IdSource) (ρ : Nat → Nat) : Entry → Entry
  | opened span spec parent =>
    opened ⟨ρ span.number, ids.context (ρ span.number) parent⟩ spec parent
  | recorded n name value => recorded (ρ n) name value
  | event e scope => event e (scope.map ρ)
  | called c scope => called c (scope.map ρ)
  | closed n => closed (ρ n)

variable (ids : IdSource)

theorem spans_rename (ρ : Nat → Nat) (e : Entry) : (e.rename ids ρ).spans = e.spans.map ρ := by
  cases e <;> rfl

theorem rename_congr {ρ σ : Nat → Nat} {e : Entry} (h : ∀ n ∈ e.spans, ρ n = σ n) :
    e.rename ids ρ = e.rename ids σ := by
  cases e with
  | opened span spec parent => simp only [rename, h span.number (List.mem_singleton_self _)]
  | recorded n name value => simp only [rename, h n (List.mem_singleton_self _)]
  | event e scope => exact congrArg (event e) (List.map_congr_left h)
  | called c scope => exact congrArg (called c) (List.map_congr_left h)
  | closed n => simp only [rename, h n (List.mem_singleton_self _)]

@[simp] theorem isOpened_rename (ρ : Nat → Nat) (e : Entry) :
    (e.rename ids ρ).isOpened = e.isOpened := by
  cases e <;> rfl

@[simp] theorem call?_rename (ρ : Nat → Nat) (e : Entry) :
    Journal.call? (e.rename ids ρ) = Journal.call? e := by
  cases e <;> rfl

end Entry

namespace Journal

theorem spansOpened_rename (ids : IdSource) (ρ : Nat → Nat) (j : Journal) :
    spansOpened (j.map (Entry.rename ids ρ)) = spansOpened j := by
  rw [spansOpened, List.countP_map, spansOpened]
  exact congrArg (fun f => List.countP f j) (funext (Entry.isOpened_rename ids ρ))

theorem calls_rename (ids : IdSource) (ρ : Nat → Nat) (j : Journal) :
    calls (j.map (Entry.rename ids ρ)) = calls j := by
  rw [calls, List.filterMap_map, calls]
  exact congrArg (fun f => List.filterMap f j) (funext (Entry.call?_rename ids ρ))

/-! ## The view of one span -/

/-- The number of the span that an entry opens. -/
def openedNumber? : Entry → Option Nat
  | .opened span _ _ => some span.number
  | _ => none

/-- The numbers of the spans that were opened, in the order of their opening. -/
def openedNumbers (j : Journal) : List Nat := j.filterMap openedNumber?

theorem openedNumbers_append (a b : Journal) :
    openedNumbers (a ++ b) = openedNumbers a ++ openedNumbers b :=
  List.filterMap_append

/-- The entries about span number `n`. -/
def about (n : Nat) (j : Journal) : Journal := j.filter fun e => n ∈ e.spans

/-- An event, if span number `n` is the innermost one that was open then. -/
def eventIn? (n : Nat) : Entry → Option Event
  | .event e (m :: _) => if m = n then some e else none
  | _ => none

/-- The events in span number `n`, oldest first. -/
def eventsIn (n : Nat) (j : Journal) : List Event := j.filterMap (eventIn? n)

/-- What a journal says about a span, but for its number and its identity. -/
structure SpanView where
  spec : SpanSpec
  parent : Option SpanContext
  /-- The fields recorded since the opening. -/
  noted : Fields
  events : List Event

/-- The view of span number `n`. -/
def spanView? (j : Journal) (n : Nat) : Option SpanView :=
  (j.span? n).map fun s => ⟨s.spec, s.parent, s.noted, eventsIn n j⟩

theorem opening?_of_not_mem {n : Nat} {e : Entry} (h : n ∉ e.spans) : opening? n e = none := by
  cases e with
  | opened span spec parent =>
      rw [opening?, if_neg]
      intro hn
      exact h (List.mem_singleton.mpr hn.symm)
  | recorded m name value => rfl
  | event e scope => rfl
  | called c scope => rfl
  | closed m => rfl

theorem number_of_opening? {n : Nat} {e : Entry} {s : SpanRecord} (h : opening? n e = some s) :
    s.number = n := by
  cases e with
  | opened span spec parent =>
      rw [opening?] at h
      split at h
      · cases h
        rfl
      · cases h
  | recorded m name value => cases h
  | event e scope => cases h
  | called c scope => cases h
  | closed m => cases h

theorem eventIn?_of_not_mem {n : Nat} {e : Entry} (h : n ∉ e.spans) : eventIn? n e = none := by
  cases e with
  | event e scope =>
      cases scope with
      | nil => rfl
      | cons m outer =>
          show (if m = n then some e else none) = none
          rw [if_neg]
          rintro rfl
          exact h List.mem_cons_self
  | opened span spec parent => rfl
  | recorded m name value => rfl
  | called c scope => rfl
  | closed m => rfl

end Journal

namespace SpanRecord

theorem note_of_not_mem {s : SpanRecord} {e : Entry} (h : s.number ∉ e.spans) : s.note e = s := by
  cases e with
  | recorded n name value =>
      rw [note, if_neg]
      intro hn
      exact h (List.mem_singleton.mpr hn.symm)
  | opened span spec parent => rfl
  | event e scope => rfl
  | called c scope => rfl
  | closed n => rfl

@[simp] theorem number_note (s : SpanRecord) (e : Entry) : (s.note e).number = s.number := by
  cases e with
  | recorded n name value =>
      rw [note]
      split <;> rfl
  | opened span spec parent => rfl
  | event e scope => rfl
  | called c scope => rfl
  | closed n => rfl

/-- The record under another number, and with the identity that the span has under it. -/
def renamed (ids : IdSource) (ρ : Nat → Nat) (s : SpanRecord) : SpanRecord :=
  { s with number := ρ s.number, context := ids.context (ρ s.number) s.parent }

end SpanRecord

namespace Journal

theorem about_append (n : Nat) (a b : Journal) : about n (a ++ b) = about n a ++ about n b :=
  List.filter_append a b

theorem about_cons_of_mem {n : Nat} {e : Entry} (h : n ∈ e.spans) (j : Journal) :
    about n (e :: j) = e :: about n j :=
  List.filter_cons_of_pos (by simp [h])

theorem about_cons_of_not_mem {n : Nat} {e : Entry} (h : n ∉ e.spans) (j : Journal) :
    about n (e :: j) = about n j :=
  List.filter_cons_of_neg (by simp [h])

theorem about_eq_nil {n : Nat} {j : Journal} (h : ∀ e ∈ j, n ∉ e.spans) : about n j = [] :=
  List.filter_eq_nil_iff.mpr fun e he => by simp [h e he]

/-- The entry that opens a span is about it. -/
theorem findSome?_opening?_about (n : Nat) (j : Journal) :
    (about n j).findSome? (opening? n) = j.findSome? (opening? n) := by
  induction j with
  | nil => rfl
  | cons e j ih =>
      by_cases he : n ∈ e.spans
      · rw [about_cons_of_mem he, List.findSome?_cons, List.findSome?_cons, ih]
      · rw [about_cons_of_not_mem he, List.findSome?_cons, opening?_of_not_mem he, ih]

/-- The entries that record fields of a span are about it. -/
theorem foldl_note_about {n : Nat} {s : SpanRecord} (hs : s.number = n) (j : Journal) :
    (about n j).foldl SpanRecord.note s = j.foldl SpanRecord.note s := by
  induction j generalizing s with
  | nil => rfl
  | cons e j ih =>
      by_cases he : n ∈ e.spans
      · have hnote : (s.note e).number = n := by rw [SpanRecord.number_note, hs]
        rw [about_cons_of_mem he, List.foldl_cons, List.foldl_cons, ih hnote]
      · have hnote : s.note e = s := SpanRecord.note_of_not_mem (hs ▸ he)
        rw [about_cons_of_not_mem he, List.foldl_cons, hnote, ih hs]

/-- What a journal says about a span, it says in the entries about the span. -/
theorem span?_about (n : Nat) (j : Journal) : span? (about n j) n = span? j n := by
  unfold span?
  rw [findSome?_opening?_about]
  cases hfirst : j.findSome? (opening? n) with
  | none => rfl
  | some s =>
      obtain ⟨e, -, he⟩ := List.exists_of_findSome?_eq_some hfirst
      rw [Option.map_some, Option.map_some, foldl_note_about (number_of_opening? he)]

theorem eventsIn_about (n : Nat) (j : Journal) : eventsIn n (about n j) = eventsIn n j := by
  induction j with
  | nil => rfl
  | cons e j ih =>
      by_cases he : n ∈ e.spans
      · rw [about_cons_of_mem he, eventsIn, eventsIn, List.filterMap_cons, List.filterMap_cons,
          ← eventsIn, ← eventsIn, ih]
      · rw [about_cons_of_not_mem he, ih, eventsIn, eventsIn,
          List.filterMap_cons_none (eventIn?_of_not_mem he)]

theorem spanView?_about (n : Nat) (j : Journal) : spanView? (about n j) n = spanView? j n := by
  rw [spanView?, span?_about, eventsIn_about, spanView?]

/-! ## The view of one span under other numbers -/

theorem openedNumbers_rename (ids : IdSource) (ρ : Nat → Nat) (j : Journal) :
    openedNumbers (j.map (Entry.rename ids ρ)) = (openedNumbers j).map ρ := by
  have hnumber : openedNumber? ∘ Entry.rename ids ρ = fun e => (openedNumber? e).map ρ :=
    funext fun e => by cases e <;> rfl
  rw [openedNumbers, List.filterMap_map, hnumber, openedNumbers, List.map_filterMap]

section Rename

variable (ids : IdSource) {ρ : Nat → Nat} (hρ : ∀ {m n}, ρ m = ρ n → m = n)
include hρ

theorem about_rename (n : Nat) (j : Journal) :
    about (ρ n) (j.map (Entry.rename ids ρ)) = (about n j).map (Entry.rename ids ρ) := by
  have hmem : ∀ e : Entry, ρ n ∈ (e.rename ids ρ).spans ↔ n ∈ e.spans := by
    intro e
    rw [Entry.spans_rename, List.mem_map]
    constructor
    · rintro ⟨m, hm, heq⟩
      exact hρ heq ▸ hm
    · intro h
      exact ⟨n, h, rfl⟩
  unfold about
  rw [List.filter_map]
  exact congrArg (List.map _) (List.filter_congr fun e _ => by simp [hmem e])

theorem opening?_rename (n : Nat) (e : Entry) :
    opening? (ρ n) (e.rename ids ρ) = (opening? n e).map (SpanRecord.renamed ids ρ) := by
  cases e with
  | opened span spec parent =>
      by_cases h : span.number = n
      · subst h
        simp [opening?, Entry.rename, SpanRecord.renamed]
      · have hne : ρ span.number ≠ ρ n := fun hc => h (hρ hc)
        simp [opening?, Entry.rename, h, hne]
  | recorded m name value => rfl
  | event e scope => rfl
  | called c scope => rfl
  | closed m => rfl

theorem note_rename (s : SpanRecord) (e : Entry) :
    (s.renamed ids ρ).note (e.rename ids ρ) = (s.note e).renamed ids ρ := by
  cases e with
  | recorded m name value =>
      by_cases h : m = s.number
      · subst h
        simp [Entry.rename, SpanRecord.note, SpanRecord.renamed]
      · have hne : ρ m ≠ ρ s.number := fun hc => h (hρ hc)
        simp [Entry.rename, SpanRecord.note, SpanRecord.renamed, h, hne]
  | opened span spec parent => rfl
  | event e scope => rfl
  | called c scope => rfl
  | closed m => rfl

theorem findSome?_opening?_rename (n : Nat) (j : Journal) :
    (j.map (Entry.rename ids ρ)).findSome? (opening? (ρ n)) =
      (j.findSome? (opening? n)).map (SpanRecord.renamed ids ρ) := by
  induction j with
  | nil => rfl
  | cons e j ih =>
      rw [List.map_cons, List.findSome?_cons, List.findSome?_cons, opening?_rename ids hρ, ih]
      cases opening? n e <;> rfl

theorem foldl_note_rename (s : SpanRecord) (j : Journal) :
    (j.map (Entry.rename ids ρ)).foldl SpanRecord.note (s.renamed ids ρ) =
      (j.foldl SpanRecord.note s).renamed ids ρ := by
  induction j generalizing s with
  | nil => rfl
  | cons e j ih => rw [List.map_cons, List.foldl_cons, List.foldl_cons, note_rename ids hρ, ih]

/-- A span under another number has the same fields. -/
theorem span?_rename (n : Nat) (j : Journal) :
    span? (j.map (Entry.rename ids ρ)) (ρ n) = (j.span? n).map (SpanRecord.renamed ids ρ) := by
  unfold span?
  rw [findSome?_opening?_rename ids hρ]
  cases j.findSome? (opening? n) with
  | none => rfl
  | some s => exact congrArg some (foldl_note_rename ids hρ s j)

theorem eventIn?_rename (n : Nat) (e : Entry) :
    eventIn? (ρ n) (e.rename ids ρ) = eventIn? n e := by
  cases e with
  | event e scope =>
      cases scope with
      | nil => rfl
      | cons m outer =>
          by_cases h : m = n
          · simp [eventIn?, Entry.rename, h]
          · have hne : ρ m ≠ ρ n := fun hc => h (hρ hc)
            simp [eventIn?, Entry.rename, h, hne]
  | opened span spec parent => rfl
  | recorded m name value => rfl
  | called c scope => rfl
  | closed m => rfl

/-- A span under another number has the same events. -/
theorem eventsIn_rename (n : Nat) (j : Journal) :
    eventsIn (ρ n) (j.map (Entry.rename ids ρ)) = eventsIn n j := by
  unfold eventsIn
  rw [List.filterMap_map]
  exact congrArg (fun f => List.filterMap f j) (funext (eventIn?_rename ids hρ n))

/-- **The view of a span is the same under another number.** -/
theorem spanView?_rename (n : Nat) (j : Journal) :
    spanView? (j.map (Entry.rename ids ρ)) (ρ n) = spanView? j n := by
  rw [spanView?, span?_rename ids hρ, eventsIn_rename ids hρ, Option.map_map]
  rfl

end Rename

end Journal

end DeviceMessaging
