import DeviceMessaging.PropertyBag
import DeviceMessaging.Proofs.Text.Segments

/-!
# `Proofs.Topic.Base` — the part of a topic that names something

A topic carries a query behind its first question mark. What stands before it, less one slash at the
end, is the base path; only the base path is read as segments. This file says what the base path is in
terms of the topic alone, and how it begins.

## Contents
- `basePath`, with `split_fst`: the base path is what splitting leaves.
- `IsBreak`: where no segment goes on. `exists_eq_basePath_append` and `basePath_append_break`: the base
  path and the topic differ only behind a break.
- `IsPlace`: a text that can stand for one segment of a topic; `exists_eq_place_append`.
- `segments_basePath_places`, `exists_eq_places_append`: several places are the first segments of a base
  path exactly when a break comes behind them.
-/

namespace DeviceMessaging

open Text

/-! ## The base path -/

/-- What stands before the first question mark, less one slash at its end; the whole topic if there is
no question mark. -/
def basePath (topic : String) : String :=
  if '?' ∈ topic.toList then
    dropLast '/' (String.ofList (topic.toList.takeWhile fun c => decide (c ≠ '?')))
  else topic

theorem basePath_of_not_mem {topic : String} (h : '?' ∉ topic.toList) : basePath topic = topic :=
  if_neg h

theorem basePath_append_query {front : String} (h : '?' ∉ front.toList) (query : String) :
    basePath (front ++ "?" ++ query) = dropLast '/' front := by
  have hmem : '?' ∈ (front ++ "?" ++ query).toList := by simp
  have htake : (front ++ "?" ++ query).toList.takeWhile (fun c => decide (c ≠ '?')) = front.toList := by
    have hfront : ∀ c ∈ front.toList, decide (c ≠ '?') = true := fun c hc =>
      decide_eq_true fun he => h (he ▸ hc)
    have hcs : (front ++ "?" ++ query).toList = front.toList ++ '?' :: query.toList := by simp
    rw [hcs, List.takeWhile_append_of_pos hfront]
    simp
  rw [basePath, if_pos hmem, htake, String.ofList_toList]

/-- A topic has no query, or it has one behind its first question mark. -/
theorem query_cases (topic : String) :
    '?' ∉ topic.toList ∨ ∃ front query, '?' ∉ front.toList ∧ topic = front ++ "?" ++ query :=
  cut_cases '?' topic

theorem split_of_not_mem {topic : String} (h : '?' ∉ topic.toList) :
    PropertyBag.split topic = (topic, PropertyBag.empty) := by
  rw [PropertyBag.split, cut_of_not_mem h]

theorem split_append_query {front : String} (h : '?' ∉ front.toList) (query : String) :
    PropertyBag.split (front ++ "?" ++ query) = (dropLast '/' front, PropertyBag.ofQuery query) := by
  have hcut : cut '?' (front ++ "?" ++ query) = some (front, query) := cut_append h
  rw [PropertyBag.split, hcut]

/-- **Splitting leaves the base path.** -/
theorem split_fst (topic : String) : (PropertyBag.split topic).1 = basePath topic := by
  rcases query_cases topic with h | ⟨front, query, h, rfl⟩
  · rw [split_of_not_mem h, basePath_of_not_mem h]
  · rw [split_append_query h, basePath_append_query h]

/-- A base path has no question mark. -/
theorem not_mem_basePath (topic : String) : '?' ∉ (basePath topic).toList := by
  rcases query_cases topic with h | ⟨front, query, h, rfl⟩
  · rwa [basePath_of_not_mem h]
  · rw [basePath_append_query h]
    exact fun hm => h (mem_of_mem_dropLast hm)

/-! ## Breaks -/

/-- No segment goes on here: nothing is left, or a slash or a question mark comes next. -/
def IsBreak (rest : String) : Prop :=
  rest = "" ∨ rest.toList.head? = some '/' ∨ rest.toList.head? = some '?'

instance (rest : String) : Decidable (IsBreak rest) := by unfold IsBreak; infer_instance

theorem isBreak_empty : IsBreak "" := Or.inl rfl

theorem isBreak_slash (rest : String) : IsBreak ("/" ++ rest) := Or.inr (Or.inl (by simp))

theorem isBreak_query (rest : String) : IsBreak ("?" ++ rest) := Or.inr (Or.inr (by simp))

/-- A break is nothing, or begins with a slash, or begins with a question mark. -/
theorem isBreak_cases {rest : String} (h : IsBreak rest) :
    rest = "" ∨ (∃ r, rest = "/" ++ r) ∨ ∃ r, rest = "?" ++ r := by
  have hhead : ∀ c, rest.toList.head? = some c → ∃ r, rest = String.singleton c ++ r := by
    intro c hc
    obtain ⟨cs, hcs⟩ := List.head?_eq_some_iff.mp hc
    exact ⟨String.ofList cs, String.toList_inj.mp (by simp [hcs])⟩
  rcases h with h | h | h
  · exact Or.inl h
  · exact Or.inr (Or.inl (hhead '/' h))
  · exact Or.inr (Or.inr (hhead '?' h))

/-- A topic is its base path with a break behind it. -/
theorem exists_eq_basePath_append (topic : String) :
    ∃ tail, IsBreak tail ∧ topic = basePath topic ++ tail := by
  rcases query_cases topic with h | ⟨front, query, h, rfl⟩
  · exact ⟨"", isBreak_empty, by rw [basePath_of_not_mem h, String.append_empty]⟩
  · rw [basePath_append_query h]
    rcases eq_dropLast_or '/' front with hf | hf
    · exact ⟨"?" ++ query, isBreak_query query, by rw [← hf, String.append_assoc]⟩
    · refine ⟨"/" ++ ("?" ++ query), isBreak_slash _, ?_⟩
      rw [← String.append_assoc, ← String.append_assoc]
      exact congrArg (· ++ "?" ++ query) hf

/-- Behind a text that ends in no slash and has no question mark, the base path goes on with a slash, or
not at all. -/
theorem basePath_append_break {a rest : String} (ha : '?' ∉ a.toList)
    (hlast : a.toList.getLast? ≠ some '/') (h : IsBreak rest) :
    ∃ more, basePath (a ++ rest) = a ++ more ∧ (more = "" ∨ ∃ r, more = "/" ++ r) := by
  rcases isBreak_cases h with rfl | ⟨r, rfl⟩ | ⟨r, rfl⟩
  · exact ⟨"", by rw [String.append_empty, basePath_of_not_mem ha], Or.inl rfl⟩
  · rcases query_cases r with hr | ⟨front, query, hf, rfl⟩
    · exact ⟨"/" ++ r, basePath_of_not_mem (by simp [ha, hr]), Or.inr ⟨r, rfl⟩⟩
    · have hfront : '?' ∉ (a ++ "/" ++ front).toList := by simp [ha, hf]
      have hbase : basePath (a ++ ("/" ++ (front ++ "?" ++ query))) = dropLast '/' (a ++ "/" ++ front) := by
        rw [← basePath_append_query hfront query]
        simp only [String.append_assoc]
      rw [hbase]
      by_cases hne : front = ""
      · -- the slash stands directly in front of the question mark and goes with it
        subst hne
        refine ⟨"", ?_, Or.inl rfl⟩
        rw [String.append_empty, String.append_empty]
        exact dropLast_append_singleton '/' a
      · exact ⟨"/" ++ dropLast '/' front, by rw [dropLast_append hne, String.append_assoc],
          Or.inr ⟨_, rfl⟩⟩
  · refine ⟨"", ?_, Or.inl rfl⟩
    rw [← String.append_assoc, basePath_append_query ha, dropLast_of_getLast_ne hlast, String.append_empty]

/-! ## Places -/

/-- A text that can stand for one segment of a topic. -/
structure IsPlace (s : String) : Prop where
  ne_empty : s ≠ ""
  no_slash : '/' ∉ s.toList
  no_query : '?' ∉ s.toList

instance (s : String) : Decidable (IsPlace s) :=
  decidable_of_iff (s ≠ "" ∧ '/' ∉ s.toList ∧ '?' ∉ s.toList)
    ⟨fun h => ⟨h.1, h.2.1, h.2.2⟩, fun h => ⟨h.ne_empty, h.no_slash, h.no_query⟩⟩

/-- A place does not end in a slash, whatever it is put behind. -/
theorem IsPlace.getLast_append_ne {s : String} (h : IsPlace s) (a : String) :
    (a ++ s).toList.getLast? ≠ some '/' := by
  rw [getLast?_toList_append h.ne_empty]
  exact fun hc => h.no_slash (List.mem_of_getLast? hc)

/-- The characters of places. -/
def inPlace (c : Char) : Bool := decide (c ≠ '/' ∧ c ≠ '?')

/-- A text that does not begin with a break begins with a place, and then comes a break. -/
theorem exists_eq_place_append {s : String} (h : ¬IsBreak s) :
    ∃ e rest, IsPlace e ∧ IsBreak rest ∧ s = e ++ rest := by
  refine ⟨String.ofList (s.toList.takeWhile inPlace), String.ofList (s.toList.dropWhile inPlace),
    ⟨?_, ?_, ?_⟩, ?_, ?_⟩
  · intro he
    apply h
    have htake : s.toList.takeWhile inPlace = [] := by simpa using he
    cases hs : s.toList with
    | nil => exact Or.inl (by simpa using hs)
    | cons c cs =>
        rw [hs, List.takeWhile_cons] at htake
        by_cases hc : inPlace c = true
        · simp [hc] at htake
        · right
          simpa [inPlace, hs, Decidable.or_iff_not_imp_left] using hc
  · intro hm
    rw [String.toList_ofList] at hm
    simpa [inPlace] using List.all_eq_true.mp List.all_takeWhile _ hm
  · intro hm
    rw [String.toList_ofList] at hm
    simpa [inPlace] using List.all_eq_true.mp List.all_takeWhile _ hm
  · have hhead := List.head?_dropWhile_not inPlace s.toList
    cases hd : s.toList.dropWhile inPlace with
    | nil => exact Or.inl (by simp)
    | cons c cs =>
        right
        rw [hd] at hhead
        simpa [inPlace, Decidable.or_iff_not_imp_left] using hhead
  · exact String.toList_inj.mp (by simp)

/-! ## Places in a row -/

/-- Places that are joined do not end in a slash. -/
theorem getLast_intercalate_ne {ws : List String} (hne : ws ≠ []) (hws : ∀ w ∈ ws, IsPlace w) :
    ("/".intercalate ws).toList.getLast? ≠ some '/' := by
  obtain ⟨front, hfront⟩ := exists_intercalate_concat '/' ws.dropLast (ws.getLast hne)
  rw [List.dropLast_concat_getLast] at hfront
  show (String.intercalate (String.singleton '/') ws).toList.getLast? ≠ some '/'
  rw [hfront]
  exact (hws _ (List.getLast_mem hne)).getLast_append_ne front

/-- **Places in a row** are the first segments of a base path, when a break comes behind them. -/
theorem segments_basePath_places {ws : List String} {rest : String} (hne : ws ≠ [])
    (hws : ∀ w ∈ ws, IsPlace w) (h : IsBreak rest) :
    ∃ vs, segments '/' (basePath ("/".intercalate ws ++ rest)) = ws ++ vs := by
  have hquery : '?' ∉ ("/".intercalate ws).toList := by
    intro hc
    have hcases : '?' = '/' ∨ ∃ w ∈ ws, '?' ∈ w.toList := mem_intercalate hc
    rcases hcases with hc | ⟨w, hw, hc⟩
    · cases hc
    · exact (hws w hw).no_query hc
  obtain ⟨more, hbase, hmore⟩ :=
    basePath_append_break hquery (getLast_intercalate_ne hne hws) h
  rw [hbase]
  exact segments_intercalate_append hne (fun w hw => (hws w hw).no_slash) hmore

/-- Conversely, first segments of a base path that are not empty are places in a row. -/
theorem exists_eq_places_append {topic : String} {ws vs : List String} (hne : ws ≠ [])
    (hs : segments '/' (basePath topic) = ws ++ vs) (hws : ∀ w ∈ ws, w ≠ "") :
    (∀ w ∈ ws, IsPlace w) ∧ ∃ rest, IsBreak rest ∧ topic = "/".intercalate ws ++ rest := by
  constructor
  · intro w hw
    have hmem : w ∈ segments '/' (basePath topic) := hs ▸ List.mem_append_left vs hw
    exact ⟨hws w hw, not_mem_of_mem_segments hmem, fun hc =>
      not_mem_basePath topic (mem_of_mem_segments hmem hc)⟩
  · obtain ⟨more, hbase, hmore⟩ := exists_eq_intercalate_append hne hs
    obtain ⟨tail, htail, htopic⟩ := exists_eq_basePath_append topic
    refine ⟨more ++ tail, ?_, ?_⟩
    · rcases hmore with rfl | ⟨r, rfl⟩
      · rwa [String.empty_append]
      · rw [String.append_assoc]
        exact isBreak_slash _
    · rw [← String.append_assoc]
      exact htopic.trans (congrArg (· ++ tail) hbase)

end DeviceMessaging
