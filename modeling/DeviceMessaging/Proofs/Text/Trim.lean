import DeviceMessaging.Text.Blank

/-!
# `Proofs.Text.Trim` — what trimming takes away

A text is trimmed in two steps, one for each end, and each of them takes as many blanks as there are. Together
they split the text in three: blanks, a text with no blanks at its ends, and blanks again; and they are the
only way to do so.

## Contents
- `isVisible`: characters that are no blanks.
- `trimFront_append`, `trimFront_of_head`, and the same for the back: one step.
- `AllBlank`, `BareEnds`: the parts of a text.
- `trim_eq_iff`: the part in the middle is what is left; `trim_of_ends`.
-/

namespace DeviceMessaging.Text

/-! ## Blanks -/

/-- The visible characters of ASCII. -/
def isVisible (c : Char) : Bool := decide (0x21 ≤ c.toNat ∧ c.toNat ≤ 0x7E)

theorem isBlank_of_isVisible {c : Char} (h : isVisible c = true) : isBlank c = false := by
  have hbounds := of_decide_eq_true h
  rw [isBlank]
  simp only [Bool.or_eq_false_iff, Bool.and_eq_false_iff, decide_eq_false_iff_not, beq_eq_false_iff_ne]
  omega

theorem isVisible_of_isDigit {c : Char} (h : c.isDigit = true) : isVisible c = true := by
  have hbounds := Char.isDigit_iff_toNat.mp h
  have hzero : '0'.toNat = 0x30 := rfl
  have hnine : '9'.toNat = 0x39 := rfl
  exact decide_eq_true (by omega)

/-! ## One end -/

theorem trimFront_append {bs cs : List Char} (h : ∀ c ∈ bs, isBlank c = true) :
    trimFront (bs ++ cs) = trimFront cs := List.dropWhile_append_of_pos h

theorem trimFront_of_head {cs : List Char} (h : ∀ c ∈ cs.head?, isBlank c = false) :
    trimFront cs = cs := by
  cases cs with
  | nil => rfl
  | cons c cs =>
      rw [trimFront, List.dropWhile_cons, h c rfl]
      rfl

/-- What is left does not begin with a blank. -/
theorem isBlank_head_trimFront {c : Char} {cs : List Char} (h : c ∈ (trimFront cs).head?) :
    isBlank c = false := by
  have hhead := List.head?_dropWhile_not isBlank cs
  rw [show (cs.dropWhile isBlank).head? = some c from h] at hhead
  simpa using hhead

/-- What is taken from the front are blanks. -/
theorem exists_append_trimFront (cs : List Char) :
    ∃ bs, (∀ c ∈ bs, isBlank c = true) ∧ cs = bs ++ trimFront cs :=
  ⟨cs.takeWhile isBlank, fun _ hc => List.all_eq_true.mp List.all_takeWhile _ hc,
    List.takeWhile_append_dropWhile.symm⟩

/-- The back is the front of the characters in reverse. -/
theorem trimBack_eq (cs : List Char) : trimBack cs = (trimFront cs.reverse).reverse := rfl

theorem trimBack_append {bs cs : List Char} (h : ∀ c ∈ bs, isBlank c = true) :
    trimBack (cs ++ bs) = trimBack cs := by
  rw [trimBack_eq, List.reverse_append, trimFront_append (by simpa using h), ← trimBack_eq]

theorem trimBack_of_last {cs : List Char} (h : ∀ c ∈ cs.getLast?, isBlank c = false) :
    trimBack cs = cs := by
  rw [trimBack_eq, trimFront_of_head (by rwa [List.head?_reverse]), List.reverse_reverse]

theorem isBlank_last_trimBack {c : Char} {cs : List Char} (h : c ∈ (trimBack cs).getLast?) :
    isBlank c = false := by
  rw [trimBack_eq, List.getLast?_reverse] at h
  exact isBlank_head_trimFront h

theorem exists_trimBack_append (cs : List Char) :
    ∃ bs, (∀ c ∈ bs, isBlank c = true) ∧ cs = trimBack cs ++ bs := by
  obtain ⟨bs, hbs, heq⟩ := exists_append_trimFront cs.reverse
  refine ⟨bs.reverse, by simpa using hbs, ?_⟩
  rw [trimBack_eq, ← List.reverse_append, ← heq, List.reverse_reverse]

/-! ## Both ends -/

/-- A text of blanks, perhaps empty. -/
def AllBlank (s : String) : Prop := ∀ c ∈ s.toList, isBlank c = true

instance (s : String) : Decidable (AllBlank s) :=
  decidable_of_iff (s.toList.all isBlank = true) List.all_eq_true

/-- A text with no blanks at its ends, perhaps empty. -/
structure BareEnds (s : String) : Prop where
  front : ∀ c ∈ s.toList.head?, isBlank c = false
  back : ∀ c ∈ s.toList.getLast?, isBlank c = false

theorem bareEnds_of_forall {s : String} (h : ∀ c ∈ s.toList, isBlank c = false) : BareEnds s :=
  ⟨fun c hc => h c (List.mem_of_mem_head? hc), fun c hc => h c (List.mem_of_getLast? hc)⟩

theorem bareEnds_trim (s : String) : BareEnds (trim s) := by
  rw [trim]
  refine ⟨fun c hc => ?_, fun c hc => ?_⟩
  · rw [String.toList_ofList] at hc
    obtain ⟨bs, -, heq⟩ := exists_trimBack_append (trimFront s.toList)
    -- trimming the back leaves the first character, if it leaves any
    have hhead : (trimFront s.toList).head? = some c := by
      rw [heq, List.head?_append, Option.mem_def.mp hc, Option.some_or]
    exact isBlank_head_trimFront hhead
  · rw [String.toList_ofList] at hc
    exact isBlank_last_trimBack hc

theorem exists_trim_between (s : String) :
    ∃ before after, AllBlank before ∧ AllBlank after ∧ s = before ++ trim s ++ after := by
  obtain ⟨bs, hbs, hfront⟩ := exists_append_trimFront s.toList
  obtain ⟨as, has, hback⟩ := exists_trimBack_append (trimFront s.toList)
  refine ⟨String.ofList bs, String.ofList as, ?_, ?_, ?_⟩
  · simpa [AllBlank] using hbs
  · simpa [AllBlank] using has
  · apply String.toList_inj.mp
    rw [String.toList_append, String.toList_append, toList_trim, String.toList_ofList, String.toList_ofList,
      List.append_assoc, ← hback]
    exact hfront

/-- Blanks around a text with bare ends are taken away, and nothing else. -/
theorem trim_between {before v after : String} (hbefore : AllBlank before) (hv : BareEnds v)
    (hafter : AllBlank after) : trim (before ++ v ++ after) = v := by
  apply String.toList_inj.mp
  rw [toList_trim, String.toList_append, String.toList_append, List.append_assoc, trimFront_append hbefore]
  cases hcs : v.toList with
  | nil =>
      have hnil : trimFront (after.toList ++ []) = [] := trimFront_append hafter
      rw [List.append_nil] at hnil
      rw [List.nil_append, hnil]
      rfl
  | cons c cs =>
      have hfront : ∀ d ∈ (c :: cs ++ after.toList).head?, isBlank d = false := by
        intro d hd
        exact hv.front d (by rw [hcs]; exact hd)
      rw [trimFront_of_head hfront, trimBack_append hafter, ← hcs, trimBack_of_last hv.back]

/-- **Trimming splits a text in three**, and there is only one way to do so. -/
theorem trim_eq_iff {s v : String} :
    trim s = v ↔
      BareEnds v ∧ ∃ before after, AllBlank before ∧ AllBlank after ∧ s = before ++ v ++ after := by
  constructor
  · rintro rfl
    exact ⟨bareEnds_trim s, exists_trim_between s⟩
  · rintro ⟨hv, before, after, hbefore, hafter, rfl⟩
    exact trim_between hbefore hv hafter

/-- A text whose ends are no blanks is not trimmed. -/
theorem trim_of_ends {s : String} (hfront : ∀ c ∈ s.toList.head?, isBlank c = false)
    (hback : ∀ c ∈ s.toList.getLast?, isBlank c = false) : trim s = s := by
  refine trim_eq_iff.mpr ⟨⟨hfront, hback⟩, "", "", ?_, ?_, by simp⟩ <;> simp [AllBlank]

end DeviceMessaging.Text
