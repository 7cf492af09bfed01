/-!
# `Text.Split` — cutting texts at a separator

Two ways to take a text apart: at every separator (`segments`), or at the first one only (`cut`).

## Contents
- `segments` with `intercalate_segments`: joining the segments with the separator gives the text back.
- `cut` with `cut_eq_some_iff` and `cut_eq_none_iff`: it succeeds exactly when the separator occurs, and
  then the first part is free of it.
- `dropLast`: a text less one last character, if that is the given one.
-/

namespace DeviceMessaging.Text

/-! ## At every separator -/

/-- The parts of `s` between the separators, empty ones kept; there is always at least one. -/
def segments (sep : Char) (s : String) : List String := (s.toList.splitOn sep).map String.ofList

theorem segments_ne_nil (sep : Char) (s : String) : segments sep s ≠ [] := by
  simp [segments, List.splitOn_ne_nil]

/-- Nothing is lost: joining the segments gives the text back. -/
theorem intercalate_segments (sep : Char) (s : String) :
    (String.singleton sep).intercalate (segments sep s) = s := by
  rw [← String.toList_inj, String.toList_intercalate]
  have hmap : (segments sep s).map String.toList = s.toList.splitOn sep := by
    simp [segments, List.map_map, Function.comp_def]
  rw [hmap]
  simp [List.intercalate_splitOn]

/-- The parts between the separators, without one empty part at the very end. -/
def terminatedSegments (sep : Char) (s : String) : List String :=
  let parts := segments sep s
  if parts.getLast? = some "" then parts.dropLast else parts

/-! ## At the first separator -/

/-- The characters before the first `sep` and those after it, if it occurs. -/
def cutChars (sep : Char) : List Char → Option (List Char × List Char)
  | [] => none
  | c :: cs =>
    if c = sep then some ([], cs) else (cutChars sep cs).map fun p => (c :: p.1, p.2)

theorem cutChars_eq_none_iff {sep : Char} {cs : List Char} :
    cutChars sep cs = none ↔ sep ∉ cs := by
  induction cs with
  | nil => simp [cutChars]
  | cons c cs ih =>
      by_cases h : c = sep
      · simp [cutChars, h]
      · simp [cutChars, h, ih, Ne.symm h]

theorem cutChars_eq_some_iff {sep : Char} {cs front back : List Char} :
    cutChars sep cs = some (front, back) ↔ cs = front ++ sep :: back ∧ sep ∉ front := by
  induction cs generalizing front with
  | nil => simp [cutChars]
  | cons c cs ih =>
      by_cases h : c = sep
      · subst h
        cases front with
        | nil => simp [cutChars]
        | cons d ds =>
            simp only [cutChars, if_true, Option.some.injEq, Prod.mk.injEq, List.cons_append,
              List.cons.injEq, List.mem_cons, not_or]
            exact ⟨fun hf => absurd hf.1 (by simp), fun hf => absurd hf.1.1 hf.2.1⟩
      · cases front with
        | nil => simp [cutChars, h]
        | cons d ds =>
            simp only [cutChars, h, if_false, Option.map_eq_some_iff, Prod.exists, Prod.mk.injEq,
              List.cons.injEq, List.cons_append, List.mem_cons, not_or]
            constructor
            · rintro ⟨a, b, hab, ⟨rfl, rfl⟩, rfl⟩
              have := ih.mp hab
              exact ⟨⟨rfl, this.1⟩, fun he => h he.symm, this.2⟩
            · rintro ⟨⟨rfl, hcs⟩, _, hn⟩
              exact ⟨ds, back, ih.mpr ⟨hcs, hn⟩, ⟨rfl, rfl⟩, rfl⟩

/-- The text before the first `sep` and the text after it, if it occurs. -/
def cut (sep : Char) (s : String) : Option (String × String) :=
  (cutChars sep s.toList).map fun p => (String.ofList p.1, String.ofList p.2)

theorem cut_eq_none_iff {sep : Char} {s : String} : cut sep s = none ↔ sep ∉ s.toList := by
  simp [cut, cutChars_eq_none_iff]

theorem cut_eq_some_iff {sep : Char} {s front back : String} :
    cut sep s = some (front, back) ↔
      s.toList = front.toList ++ sep :: back.toList ∧ sep ∉ front.toList := by
  simp only [cut, Option.map_eq_some_iff, Prod.exists, Prod.mk.injEq]
  constructor
  · rintro ⟨a, b, h, rfl, rfl⟩
    simpa using cutChars_eq_some_iff.mp h
  · intro h
    exact ⟨_, _, cutChars_eq_some_iff.mpr h, by simp, by simp⟩

/-! ## At the end -/

/-- The text `s` less its last character, if that is `c`; else `s`. -/
def dropLast (c : Char) (s : String) : String :=
  if s.toList.getLast? = some c then String.ofList s.toList.dropLast else s

end DeviceMessaging.Text
