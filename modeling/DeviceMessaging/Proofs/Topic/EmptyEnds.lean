import DeviceMessaging.Proofs.Topic.Rendering
import Mathlib.Data.List.DropRight

/-!
# `Proofs.Topic.EmptyEnds` — what a topic loses when it is read and written again

An empty tenant or device counts as absent, and what is absent at the end is not written. Behind the device
an empty segment is one like any other, and then every segment in front of it is needed for its place. So a
topic of four segments or more comes back as it was, and a shorter one comes back without the empty segments
at its end.

## Contents
- `emptyEnd`, `withoutEmptyEnd`: the empty segments at the end of a text; `eq_withoutEmptyEnd_append`.
- `TopicPath.written_of_parse_long`, `TopicPath.written_of_parse_short`: the segments that are written of a
  topic that was read.
- `TopicPath.render_of_parse_long`, `TopicPath.render_of_parse_short`: the text that comes back.
- `TopicPath.lostSlashes`, `TopicPath.eq_render_append`, `TopicPath.render_ne_iff`: what is missing from it, and
  when.
- `TopicPath.writing_undoes_reading`, with `TopicPath.rewritten_topics`.
-/

namespace DeviceMessaging

/-! ## Empty segments at the end -/

namespace Text

/-- The number of empty segments at the end of a text. -/
def emptyEnd (sep : Char) (s : String) : Nat := ((segments sep s).rtakeWhile String.isEmpty).length

/-- A text without the empty segments at its end and the separators in front of them. -/
def withoutEmptyEnd (sep : Char) (s : String) : String :=
  (String.singleton sep).intercalate ((segments sep s).rdropWhile String.isEmpty)

/-- Empty segments that are joined behind others are so many separators. -/
theorem intercalate_append_replicate (sep : Char) {ws : List String} (hne : ws ≠ []) (k : Nat) :
    (String.singleton sep).intercalate (ws ++ List.replicate k "") =
      (String.singleton sep).intercalate ws ++ String.ofList (List.replicate k sep) := by
  induction k with
  | zero => simp
  | succ k ih =>
      have hfront : ws ++ List.replicate k "" ≠ [] := List.append_ne_nil_of_left_ne_nil hne _
      rw [List.replicate_succ', ← List.append_assoc,
        String.intercalate_append_of_ne_nil hfront (by simp), ih, String.intercalate_singleton,
        String.append_empty, List.replicate_succ', String.ofList_append, ← String.append_assoc]
      rfl

/-- **A text is what remains without its empty end, and the separators that went with it.** -/
theorem eq_withoutEmptyEnd_append {sep : Char} {s : String} (h : ∃ w ∈ segments sep s, w ≠ "") :
    s = withoutEmptyEnd sep s ++ String.ofList (List.replicate (emptyEnd sep s) sep) := by
  have hne : (segments sep s).rdropWhile String.isEmpty ≠ [] := by
    intro hnil
    obtain ⟨w, hw, hwne⟩ := h
    exact hwne (String.isEmpty_iff.mp (List.rdropWhile_eq_nil_iff.mp hnil w hw))
  have hend : (segments sep s).rtakeWhile String.isEmpty = List.replicate (emptyEnd sep s) "" := by
    refine List.eq_replicate_of_mem fun w hw => ?_
    exact String.isEmpty_iff.mp (List.mem_rtakeWhile_imp (p := String.isEmpty) hw)
  rw [withoutEmptyEnd, ← intercalate_append_replicate sep hne, ← hend, List.rdropWhile_append_rtakeWhile,
    intercalate_segments]

/-- The empty end begins with the last segment. -/
theorem emptyEnd_eq_zero_iff {sep : Char} {s : String} :
    emptyEnd sep s = 0 ↔ (segments sep s).getLast? ≠ some "" := by
  have hne := segments_ne_nil sep s
  rw [emptyEnd, List.length_eq_zero_iff, List.rtakeWhile_eq_nil_iff, List.getLast?_eq_some_getLast hne]
  simp [hne]

end Text

/-! ## Reading and writing -/

open Text

namespace TopicPath

theorem idSegment_of_ne {t : String} (h : t ≠ "") : idSegment (some t) = some t :=
  idSegment_eq_some_iff.mpr ⟨rfl, h⟩

/-- What is written for an id is the segment that it was read from. -/
theorem getD_idSegment (t : String) : (idSegment (some t)).getD "" = t := by
  by_cases ht : t = ""
  · rw [ht]
    rfl
  · rw [idSegment_of_ne ht, Option.getD_some]

/-- Both id segments are written if there is a device, or something behind it. -/
theorem idSegments_of_needed {p : TopicPath} (h : p.device ≠ none ∨ p.extras ≠ []) :
    p.idSegments = [p.tenant.getD "", p.device.getD ""] := by
  unfold idSegments
  split
  · next hd hx => exact absurd h (by simp [hd, hx])
  · next hd hx => exact absurd h (by simp [hd, hx])
  · rfl

/-- Such a path is written with all the segments that it was read from. -/
theorem written_of_needed {e t d : String} {extras : List String} (h : d ≠ "" ∨ extras ≠ []) :
    written ⟨e, idSegment (some t), idSegment (some d), extras⟩ = e :: t :: d :: extras := by
  have hneeded : idSegment (some d) ≠ none ∨ extras ≠ [] := by
    refine h.imp_left fun hd => ?_
    rw [idSegment_of_ne hd]
    exact Option.some_ne_none d
  rw [written, idSegments_of_needed hneeded, getD_idSegment, getD_idSegment]
  rfl

/-- Behind three segments nothing is left out. -/
theorem written_of_parse_long {s : String} {p : TopicPath} (h : parse s = .ok p)
    (hlong : 4 ≤ (segments '/' s).length) : p.written = segments '/' s := by
  obtain ⟨more, hs, -, hp⟩ := exists_segments_of_parse h
  rw [hs] at hlong ⊢
  match more, hlong with
  | t :: d :: x :: xs, _ =>
      rw [hp]
      exact written_of_needed (.inr (List.cons_ne_nil x xs))

/-- Of three segments or fewer, all are written but those of the empty end. -/
theorem written_of_parse_short {s : String} {p : TopicPath} (h : parse s = .ok p)
    (hshort : (segments '/' s).length ≤ 3) :
    p.written = (segments '/' s).rdropWhile String.isEmpty := by
  obtain ⟨more, hs, he, hp⟩ := exists_segments_of_parse h
  rw [hs] at hshort ⊢
  -- a last segment ends the path, or it is left out and the path is that of the segments in front of it
  have hdrop : ∀ ws : List String, (ws ++ [""]).rdropWhile String.isEmpty = ws.rdropWhile String.isEmpty :=
    fun ws => List.rdropWhile_concat_pos _ ws "" rfl
  have hkeep : ∀ (ws : List String) w, w ≠ "" → (ws ++ [w]).rdropWhile String.isEmpty = ws ++ [w] :=
    fun ws w hw => List.rdropWhile_concat_neg _ ws w (by simpa using hw)
  have hone : [p.endpoint].rdropWhile String.isEmpty = [p.endpoint] := hkeep [] p.endpoint he
  have htwo : ∀ t, written ⟨p.endpoint, idSegment (some t), none, []⟩ =
      [p.endpoint, t].rdropWhile String.isEmpty := by
    intro t
    by_cases ht : t = ""
    · rw [ht]
      exact ((hdrop [p.endpoint]).trans hone).symm
    · rw [idSegment_of_ne ht]
      exact (hkeep [p.endpoint] t ht).symm
  match more, hshort with
  | [], _ =>
      rw [hp]
      exact hone.symm
  | [t], _ =>
      rw [hp]
      exact htwo t
  | [t, d], _ =>
      rw [hp]
      by_cases hd : d = ""
      · rw [hd]
        exact (htwo t).trans (hdrop [p.endpoint, t]).symm
      · exact (written_of_needed (.inl hd)).trans (hkeep [p.endpoint, t] d hd).symm

/-! ## The text that comes back -/

/-- A topic of four segments or more is written as it was read. -/
theorem render_of_parse_long {s : String} {p : TopicPath} (h : parse s = .ok p)
    (hlong : 4 ≤ (segments '/' s).length) : p.render = s := by
  show (String.singleton '/').intercalate p.written = s
  rw [written_of_parse_long h hlong, intercalate_segments]

/-- A shorter one is written without its empty end. -/
theorem render_of_parse_short {s : String} {p : TopicPath} (h : parse s = .ok p)
    (hshort : (segments '/' s).length ≤ 3) : p.render = withoutEmptyEnd '/' s := by
  show (String.singleton '/').intercalate p.written = _
  rw [written_of_parse_short h hshort]
  rfl

/-- The number of slashes that a topic loses: one for each segment of the empty end, if the topic is short. -/
def lostSlashes (topic : String) : Nat := if (segments '/' topic).length ≤ 3 then emptyEnd '/' topic else 0

/-- **What is missing are slashes at the end.** -/
theorem eq_render_append {s : String} {p : TopicPath} (h : parse s = .ok p) :
    s = p.render ++ String.ofList (List.replicate (lostSlashes s) '/') := by
  unfold lostSlashes
  by_cases hshort : (segments '/' s).length ≤ 3
  · obtain ⟨more, hs, he, -⟩ := exists_segments_of_parse h
    have hsome : ∃ w ∈ segments '/' s, w ≠ "" := ⟨p.endpoint, by simp [hs], he⟩
    rw [if_pos hshort, render_of_parse_short h hshort]
    exact eq_withoutEmptyEnd_append hsome
  · rw [if_neg hshort, render_of_parse_long h (Nat.lt_of_not_le hshort)]
    simp

/-- The endpoint is no empty end. -/
theorem two_le_length_of_getLast {s : String} {p : TopicPath} (h : parse s = .ok p)
    (hlast : (segments '/' s).getLast? = some "") : 2 ≤ (segments '/' s).length := by
  obtain ⟨more, hs, he, -⟩ := exists_segments_of_parse h
  rw [hs] at hlast ⊢
  cases more with
  | nil => exact absurd (Option.some.inj hlast) he
  | cons t more => simp

/-- A short topic comes back unchanged if it has no empty end. -/
theorem render_eq_iff_of_short {s : String} {p : TopicPath} (h : parse s = .ok p)
    (hshort : (segments '/' s).length ≤ 3) : p.render = s ↔ emptyEnd '/' s = 0 := by
  have hs := eq_render_append h
  rw [lostSlashes, if_pos hshort] at hs
  constructor
  · intro heq
    rw [heq] at hs
    simpa using congrArg String.length hs
  · intro hzero
    rw [hzero] at hs
    simpa using hs.symm

/-- **A topic does not come back unchanged** if it has two or three segments and the last one is empty, and
only then. -/
theorem render_ne_iff {s : String} {p : TopicPath} (h : parse s = .ok p) :
    p.render ≠ s ↔ ((segments '/' s).length = 2 ∨ (segments '/' s).length = 3) ∧
      (segments '/' s).getLast? = some "" := by
  by_cases hshort : (segments '/' s).length ≤ 3
  · rw [ne_eq, render_eq_iff_of_short h hshort, emptyEnd_eq_zero_iff, not_not]
    refine ⟨fun hlast => ⟨?_, hlast⟩, fun hend => hend.2⟩
    have htwo := two_le_length_of_getLast h hlast
    omega
  · have hsame : p.render = s := render_of_parse_long h (Nat.lt_of_not_le hshort)
    exact ⟨fun hne => absurd hsame hne, fun hend => absurd hend.1 (by omega)⟩

/-- **Writing undoes reading**, but for the empty end of a topic of three segments or fewer: nothing else of the
text is lost, added or moved. -/
theorem writing_undoes_reading (s : String) (p : TopicPath) (h : parse s = .ok p) :
    (4 ≤ (segments '/' s).length → p.render = s) ∧
    ((segments '/' s).length ≤ 3 → p.render = withoutEmptyEnd '/' s) ∧
    (p.render ≠ s ↔ ((segments '/' s).length = 2 ∨ (segments '/' s).length = 3) ∧
      (segments '/' s).getLast? = some "") ∧
    s = p.render ++ String.ofList (List.replicate (lostSlashes s) '/') :=
  ⟨render_of_parse_long h, render_of_parse_short h, render_ne_iff h, eq_render_append h⟩

/-- Two slashes at the end of a topic are lost, and three are kept. -/
theorem rewritten_topics :
    ∃ p p', parse "e//" = .ok p ∧ parse "e///" = .ok p' ∧
      p.render = "e" ∧ p.render ≠ "e//" ∧ "e//" = p.render ++ "//" ∧ p'.render = "e///" := by
  have hp : parse "e//" = .ok ⟨"e", none, none, []⟩ := rfl
  have hp' : parse "e///" = .ok ⟨"e", none, none, [""]⟩ := rfl
  obtain ⟨-, hshort, hchanged, hlost⟩ := writing_undoes_reading _ _ hp
  obtain ⟨hlong, -, -, -⟩ := writing_undoes_reading _ _ hp'
  exact ⟨_, _, hp, hp', (hshort (by decide)).trans (by decide), hchanged.mpr (by decide),
    hlost.trans (by decide), hlong (by decide)⟩

end TopicPath

end DeviceMessaging
