import DeviceMessaging.Text.Split

/-!
# `Proofs.Text.Segments` — how segments and cuts follow the separators

A text is read from the front: up to the first separator stands its first segment, and behind it the
segments of what remains. Everything that is said about topics and queries elsewhere goes through these
few equations, never through the lists of characters behind them.

## Contents
- `segments_of_not_mem`, `segments_append`: the first segment of a text.
- `segments_intercalate`, `not_mem_of_mem_segments`: joining and cutting undo each other.
- `segments_append_singleton`: a separator at the end of a text.
- `segments_intercalate_append`, `exists_eq_intercalate_append`: the first segments of a text.
- `mem_intercalate`, `mem_of_mem_segments`: no characters come from elsewhere.
- `cut_of_not_mem`, `cut_append`, `cut_cases`: the first cut of a text.
- `dropLast_append_singleton`, `dropLast_of_getLast_ne`, `dropLast_append`: the end of a text.
-/

namespace DeviceMessaging.Text

/-! ## Segments -/

theorem segments_of_not_mem {sep : Char} {s : String} (h : sep ∉ s.toList) : segments sep s = [s] := by
  rw [segments, List.splitOn_eq_singleton h]
  simp

/-- A text without separators is the first segment of whatever it is put in front of. -/
theorem segments_append {sep : Char} {a b : String} (h : sep ∉ a.toList) :
    segments sep (a ++ String.singleton sep ++ b) = a :: segments sep b := by
  have hcs : (a ++ String.singleton sep ++ b).toList = a.toList ++ sep :: b.toList := by simp
  rw [segments, hcs, List.splitOn_append_cons_self_of_not_mem h]
  simp [segments]

theorem not_mem_of_mem_splitOn {sep : Char} {cs w : List Char} (hw : w ∈ cs.splitOn sep) : sep ∉ w := by
  induction cs generalizing w with
  | nil =>
      rw [List.splitOn_nil, List.mem_singleton] at hw
      simp [hw]
  | cons c cs ih =>
      rw [List.splitOn_cons_eq_if_modifyHead] at hw
      cases hs : cs.splitOn sep with
      | nil => exact absurd hs (List.splitOn_ne_nil _ _)
      | cons front more =>
          rw [hs] at hw ih
          by_cases hc : c = sep
          · simp only [hc, beq_self_eq_true, if_true, List.mem_cons] at hw
            rcases hw with rfl | hw
            · simp
            · exact ih (List.mem_cons.mpr hw)
          · simp only [beq_eq_false_iff_ne.mpr hc, Bool.false_eq_true, if_false,
              List.modifyHead_cons, List.mem_cons] at hw
            rcases hw with rfl | hw
            · simp [ih (List.mem_cons_self ..), Ne.symm hc]
            · exact ih (List.mem_cons_of_mem _ hw)

/-- No segment contains the separator. -/
theorem not_mem_of_mem_segments {sep : Char} {s w : String} (hw : w ∈ segments sep s) :
    sep ∉ w.toList := by
  obtain ⟨v, hv, rfl⟩ := List.mem_map.mp hw
  simpa using not_mem_of_mem_splitOn hv

/-- Segments that are joined come apart again. -/
theorem segments_intercalate {sep : Char} {ws : List String} (hne : ws ≠ [])
    (h : ∀ w ∈ ws, sep ∉ w.toList) : segments sep ((String.singleton sep).intercalate ws) = ws := by
  induction ws with
  | nil => exact absurd rfl hne
  | cons w ws ih =>
      have hw : sep ∉ w.toList := h w (List.mem_cons_self ..)
      cases ws with
      | nil => simpa using segments_of_not_mem hw
      | cons v vs =>
          have hrest := ih (by simp) fun u hu => h u (List.mem_cons_of_mem _ hu)
          rw [String.intercalate_cons_cons, segments_append hw, hrest]

/-- A separator at the end of a text adds an empty segment. -/
theorem segments_append_singleton (sep : Char) (s : String) :
    segments sep (s ++ String.singleton sep) = segments sep s ++ [""] := by
  have hjoin : s ++ String.singleton sep = (String.singleton sep).intercalate (segments sep s ++ [""]) := by
    rw [String.intercalate_append_of_ne_nil (segments_ne_nil sep s) (by simp), intercalate_segments,
      String.intercalate_singleton, String.append_empty]
  rw [hjoin]
  refine segments_intercalate (by simp) ?_
  intro w hw
  rcases List.mem_append.mp hw with hw | hw
  · exact not_mem_of_mem_segments hw
  · rw [List.mem_singleton.mp hw]
    simp

/-- Texts without separators are the first segments of whatever they are joined in front of. -/
theorem segments_intercalate_append {sep : Char} {ws : List String} {more : String} (hne : ws ≠ [])
    (h : ∀ w ∈ ws, sep ∉ w.toList) (hmore : more = "" ∨ ∃ r, more = String.singleton sep ++ r) :
    ∃ vs, segments sep ((String.singleton sep).intercalate ws ++ more) = ws ++ vs := by
  rcases hmore with rfl | ⟨r, rfl⟩
  · refine ⟨[], ?_⟩
    rw [String.append_empty, List.append_nil]
    exact segments_intercalate hne h
  · refine ⟨segments sep r, ?_⟩
    -- what comes behind is joined from its own segments
    have hjoin : (String.singleton sep).intercalate ws ++ (String.singleton sep ++ r) =
        (String.singleton sep).intercalate (ws ++ segments sep r) := by
      rw [String.intercalate_append_of_ne_nil hne (segments_ne_nil sep r), intercalate_segments,
        String.append_assoc]
    rw [hjoin]
    refine segments_intercalate (List.append_ne_nil_of_left_ne_nil hne _) ?_
    intro w hw
    rcases List.mem_append.mp hw with hw | hw
    · exact h w hw
    · exact not_mem_of_mem_segments hw

/-- The first segments of a text, joined, are its beginning, and there a segment ends. -/
theorem exists_eq_intercalate_append {sep : Char} {s : String} {ws vs : List String} (hne : ws ≠ [])
    (hs : segments sep s = ws ++ vs) :
    ∃ more, s = (String.singleton sep).intercalate ws ++ more ∧
      (more = "" ∨ ∃ r, more = String.singleton sep ++ r) := by
  have hjoin : s = (String.singleton sep).intercalate (ws ++ vs) := by
    rw [← hs]
    exact (intercalate_segments sep s).symm
  by_cases hvs : vs = []
  · refine ⟨"", ?_, Or.inl rfl⟩
    rw [hjoin, hvs, List.append_nil, String.append_empty]
  · refine ⟨String.singleton sep ++ (String.singleton sep).intercalate vs, ?_, Or.inr ⟨_, rfl⟩⟩
    rw [hjoin, String.intercalate_append_of_ne_nil hne hvs, String.append_assoc]

/-- Joined texts end in the last of them. -/
theorem exists_intercalate_concat (sep : Char) (ws : List String) (w : String) :
    ∃ front, (String.singleton sep).intercalate (ws ++ [w]) = front ++ w := by
  by_cases hws : ws = []
  · exact ⟨"", by simp [hws]⟩
  · rw [String.intercalate_append_of_ne_nil hws (by simp), String.intercalate_singleton]
    exact ⟨_, rfl⟩

/-- Joining adds no characters but the separator. -/
theorem mem_intercalate {sep c : Char} {ws : List String}
    (h : c ∈ ((String.singleton sep).intercalate ws).toList) : c = sep ∨ ∃ w ∈ ws, c ∈ w.toList := by
  induction ws with
  | nil => simp at h
  | cons w ws ih =>
      cases ws with
      | nil => exact .inr ⟨w, List.mem_singleton_self w, by simpa using h⟩
      | cons v vs =>
          rw [String.intercalate_cons_cons] at h
          simp only [String.toList_append, List.mem_append, String.toList_singleton,
            List.mem_singleton] at h
          rcases h with (h | h) | h
          · exact .inr ⟨w, List.mem_cons_self, h⟩
          · exact .inl h
          · exact (ih h).imp_right fun ⟨u, hu, hc⟩ => ⟨u, List.mem_cons_of_mem w hu, hc⟩

/-- A segment has no characters but those of the text. -/
theorem mem_of_mem_segments {sep c : Char} {s w : String} (hw : w ∈ segments sep s)
    (hc : c ∈ w.toList) : c ∈ s.toList := by
  obtain ⟨before, after, hs⟩ := List.append_of_mem hw
  rw [List.append_cons] at hs
  obtain ⟨more, heq, -⟩ := exists_eq_intercalate_append (by simp) hs
  obtain ⟨front, hfront⟩ := exists_intercalate_concat sep before w
  rw [heq, hfront]
  simp [hc]

/-! ## Cuts -/

theorem cut_of_not_mem {sep : Char} {s : String} (h : sep ∉ s.toList) : cut sep s = none :=
  cut_eq_none_iff.mpr h

/-- A text without separators is what is cut off whatever it is put in front of. -/
theorem cut_append {sep : Char} {a b : String} (h : sep ∉ a.toList) :
    cut sep (a ++ String.singleton sep ++ b) = some (a, b) :=
  cut_eq_some_iff.mpr ⟨by simp, h⟩

/-- A text has no separator, or it has a first one. -/
theorem cut_cases (sep : Char) (s : String) :
    sep ∉ s.toList ∨
      ∃ front back, sep ∉ front.toList ∧ s = front ++ String.singleton sep ++ back := by
  cases hcut : cut sep s with
  | none => exact .inl (cut_eq_none_iff.mp hcut)
  | some p =>
      obtain ⟨hcs, hfront⟩ := cut_eq_some_iff.mp hcut
      exact .inr ⟨p.1, p.2, hfront, String.toList_inj.mp (by simpa using hcs)⟩

/-! ## Ends -/

theorem dropLast_append_singleton (c : Char) (s : String) :
    dropLast c (s ++ String.singleton c) = s := by
  simp [dropLast]

theorem dropLast_of_getLast_ne {c : Char} {s : String} (h : s.toList.getLast? ≠ some c) :
    dropLast c s = s := if_neg h

theorem getLast?_toList_append {b : String} (h : b ≠ "") (a : String) :
    (a ++ b).toList.getLast? = b.toList.getLast? := by
  have hne : b.toList ≠ [] := by simpa using h
  rw [String.toList_append, List.getLast?_append, List.getLast?_eq_some_getLast hne, Option.some_or]

/-- Only the last of two texts is touched, if it is not empty. -/
theorem dropLast_append {c : Char} {b : String} (h : b ≠ "") (a : String) :
    dropLast c (a ++ b) = a ++ dropLast c b := by
  have hne : b.toList ≠ [] := by simpa using h
  have hlast : (a ++ b).toList.getLast? = b.toList.getLast? := getLast?_toList_append h a
  by_cases hc : b.toList.getLast? = some c
  · rw [dropLast, dropLast, if_pos (hlast.trans hc), if_pos hc, ← String.toList_inj]
    simp [List.dropLast_append_of_ne_nil hne]
  · rw [dropLast_of_getLast_ne hc, dropLast_of_getLast_ne (hlast ▸ hc)]

/-- A text is what is left of it, or that with the character behind it. -/
theorem eq_dropLast_or (c : Char) (s : String) :
    s = dropLast c s ∨ s = dropLast c s ++ String.singleton c := by
  by_cases hc : s.toList.getLast? = some c
  · obtain ⟨cs, hcs⟩ := List.getLast?_eq_some_iff.mp hc
    have hs : s = String.ofList cs ++ String.singleton c := String.toList_inj.mp (by simp [hcs])
    exact Or.inr (by rw [hs, dropLast_append_singleton])
  · exact Or.inl (dropLast_of_getLast_ne hc).symm

theorem mem_of_mem_dropLast {c d : Char} {s : String} (h : d ∈ (dropLast c s).toList) : d ∈ s.toList := by
  unfold dropLast at h
  split at h
  · rw [String.toList_ofList] at h
    exact List.dropLast_subset _ h
  · exact h

end DeviceMessaging.Text
