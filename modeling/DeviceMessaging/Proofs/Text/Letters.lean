import DeviceMessaging.Proofs.Text.Trim
import DeviceMessaging.Text.Fold
import Mathlib.Data.List.Forall2

/-!
# `Proofs.Text.Letters` — texts that differ in the case of letters only

## Contents
- `SameLetter`, `SameButCase`: equality up to the case of ASCII letters, said of characters and of texts.
- `sameLetters_iff`, `afterLetters_append`, `exists_append_of_afterLetters`: this is what is compared.
- `SameButCase.utf8ByteSize_eq`: a letter takes as many bytes in either case.
- `upToByte?`, `fromByte?`: the two parts of a text that is cut at a byte, with `upToByte?_eq_some_iff` and
  `fromByte?_eq_some_iff`.
-/

namespace DeviceMessaging.Text

/-! ## Characters -/

/-- The same character, or the two cases of an ASCII letter: a small letter stands 32 places behind its
capital. -/
def SameLetter (c d : Char) : Prop :=
  c = d ∨ (c.isUpper = true ∧ d.toNat = c.toNat + 32) ∨ (d.isUpper = true ∧ c.toNat = d.toNat + 32)

instance (c d : Char) : Decidable (SameLetter c d) := by unfold SameLetter; infer_instance

theorem isUpper_iff_toNat {c : Char} : c.isUpper = true ↔ 65 ≤ c.toNat ∧ c.toNat ≤ 90 := by
  show decide (c.val ≥ 'A'.val ∧ c.val ≤ 'Z'.val) = true ↔ _
  rw [decide_eq_true_eq, ge_iff_le, UInt32.le_iff_toNat_le, UInt32.le_iff_toNat_le, Char.toNat_val]
  rfl

theorem toNat_toLower (c : Char) :
    c.toLower.toNat = if c.isUpper = true then c.toNat + 32 else c.toNat := by
  by_cases hc : c.isUpper = true
  · have hval : c.toLower.val = c.val + 32 := congrArg Char.val (dif_pos (of_decide_eq_true hc))
    have hle := (isUpper_iff_toNat.mp hc).2
    rw [if_pos hc, ← Char.toNat_val, hval, UInt32.toNat_add, Char.toNat_val]
    show (c.toNat + 32) % 2 ^ 32 = c.toNat + 32
    exact Nat.mod_eq_of_lt (by omega)
  · have hsame : c.toLower = c := dif_neg fun h => hc (decide_eq_true h)
    rw [if_neg hc, hsame]

/-- Two characters have one small form if they are the same letter. -/
theorem toLower_eq_iff {c d : Char} : c.toLower = d.toLower ↔ SameLetter c d := by
  rw [← Char.toNat_inj, toNat_toLower, toNat_toLower, SameLetter, ← Char.toNat_inj]
  simp only [isUpper_iff_toNat]
  split <;> split <;> omega

/-- Characters that are not the same are letters, and those of ASCII stand together. -/
theorem SameLetter.eq_or_letters {c d : Char} (h : SameLetter c d) :
    c = d ∨ (65 ≤ c.toNat ∧ c.toNat ≤ 122 ∧ 65 ≤ d.toNat ∧ d.toNat ≤ 122) := by
  rcases h with h | ⟨hupper, h⟩ | ⟨hupper, h⟩
  · exact .inl h
  · have hcapital := isUpper_iff_toNat.mp hupper
    omega
  · have hcapital := isUpper_iff_toNat.mp hupper
    omega

/-- A digit has one case. -/
theorem SameLetter.eq_of_isDigit {c d : Char} (h : SameLetter c d) (hd : d.isDigit = true) : c = d := by
  have hle := (Char.isDigit_iff_toNat.mp hd).2
  have hnine : '9'.toNat = 57 := rfl
  rcases h.eq_or_letters with h | ⟨-, -, hfirst, -⟩
  · exact h
  · omega

theorem utf8Size_of_toNat_le {c : Char} (h : c.toNat ≤ 127) : c.utf8Size = 1 :=
  Char.utf8Size_eq_one_iff.mpr (UInt32.le_iff_toNat_le.mpr h)

theorem SameLetter.utf8Size_eq {c d : Char} (h : SameLetter c d) : c.utf8Size = d.utf8Size := by
  rcases h.eq_or_letters with rfl | ⟨-, hc, -, hd⟩
  · rfl
  · rw [utf8Size_of_toNat_le (by omega), utf8Size_of_toNat_le (by omega)]

/-- A letter is no blank in either case. -/
theorem SameLetter.isBlank_eq {c d : Char} (h : SameLetter c d) : isBlank c = isBlank d := by
  rcases h.eq_or_letters with rfl | ⟨hc, hc', hd, hd'⟩
  · rfl
  · have hvisible : isVisible c = true := decide_eq_true (by omega)
    have hvisible' : isVisible d = true := decide_eq_true (by omega)
    rw [isBlank_of_isVisible hvisible, isBlank_of_isVisible hvisible']

/-! ## Texts -/

/-- The texts differ at most in the case of ASCII letters. -/
def SameButCase (s t : String) : Prop := List.Forall₂ SameLetter s.toList t.toList

instance (s t : String) : Decidable (SameButCase s t) := by unfold SameButCase; infer_instance

/-- **What is compared is equality up to case.** -/
theorem sameLetters_iff {s t : String} : sameLetters s.toList t.toList = true ↔ SameButCase s t := by
  rw [sameLetters, beq_iff_eq, ← List.forall₂_eq_eq_eq, List.forall₂_map_left_iff,
    List.forall₂_map_right_iff, SameButCase]
  simp only [toLower_eq_iff]

/-- The pattern is passed over at the beginning of a text, in any case. -/
theorem afterLetters_append {pattern front : String} (h : SameButCase front pattern) (back : String) :
    afterLetters pattern.toList (front ++ back).toList = some back.toList :=
  afterLetters_eq_some_iff.mpr ⟨front.toList, String.toList_append, sameLetters_iff.mpr h⟩

/-- Nothing else is passed over. -/
theorem exists_append_of_afterLetters {pattern s : String} {rest : List Char}
    (h : afterLetters pattern.toList s.toList = some rest) :
    ∃ front back, s = front ++ back ∧ SameButCase front pattern ∧ rest = back.toList := by
  obtain ⟨front, hs, hsame⟩ := afterLetters_eq_some_iff.mp h
  refine ⟨String.ofList front, String.ofList rest, String.toList_inj.mp (by simpa using hs), ?_, by simp⟩
  rw [← sameLetters_iff, String.toList_ofList]
  exact hsame

/-- A text that is another one in two parts up to case has two such parts itself. -/
theorem SameButCase.exists_append {s a b : String} (h : SameButCase s (a ++ b)) :
    ∃ front back, s = front ++ back ∧ SameButCase front a ∧ SameButCase back b := by
  rw [SameButCase, String.toList_append] at h
  refine ⟨String.ofList (s.toList.take a.toList.length), String.ofList (s.toList.drop a.toList.length),
    String.toList_inj.mp (by simp), ?_, ?_⟩
  · rw [SameButCase, String.toList_ofList]
    exact List.forall₂_take_append _ _ _ h
  · rw [SameButCase, String.toList_ofList]
    exact List.forall₂_drop_append _ _ _ h

/-- Each character of a text stands in the other one in some case. -/
theorem SameButCase.exists_mem {s t : String} (h : SameButCase s t) {c : Char} (hc : c ∈ s.toList) :
    ∃ d ∈ t.toList, SameLetter c d := by
  rw [SameButCase] at h
  generalize s.toList = cs, t.toList = ds at h hc
  induction h with
  | nil => cases hc
  | cons hhead _ ih =>
      rcases List.mem_cons.mp hc with rfl | hc
      · exact ⟨_, List.mem_cons_self, hhead⟩
      · obtain ⟨d, hd, hsame⟩ := ih hc
        exact ⟨d, List.mem_cons_of_mem _ hd, hsame⟩

/-- A text of digits has one case. -/
theorem SameButCase.eq_of_digits {s t : String} (h : SameButCase s t)
    (ht : ∀ c ∈ t.toList, c.isDigit = true) : s = t := by
  apply String.toList_inj.mp
  rw [SameButCase] at h
  generalize s.toList = cs, t.toList = ds at h ht
  induction h with
  | nil => rfl
  | cons hc _ ih =>
      rw [List.forall_mem_cons] at ht
      rw [hc.eq_of_isDigit ht.1, ih ht.2]

theorem SameButCase.utf8ByteSize_eq {s t : String} (h : SameButCase s t) :
    s.utf8ByteSize = t.utf8ByteSize := by
  rw [← String.ofList_toList (s := s), ← String.ofList_toList (s := t)]
  rw [SameButCase] at h
  generalize s.toList = cs, t.toList = ds at h
  induction h with
  | nil => rfl
  | cons hc _ ih =>
      rw [String.ofList_cons, String.ofList_cons, String.utf8ByteSize_append, String.utf8ByteSize_append,
        String.utf8ByteSize_singleton, String.utf8ByteSize_singleton, hc.utf8Size_eq, ih]

/-! ## Bytes -/

/-- The text up to byte `n`; there is none if a character takes bytes on both sides, or if there are fewer
bytes. -/
def upToByte? (n : Nat) (s : String) : Option String := (s.pos? ⟨n⟩).map fun p => (s.sliceTo p).copy

/-- The text from byte `n` on; there is none in the same cases. -/
def fromByte? (n : Nat) (s : String) : Option String := (s.pos? ⟨n⟩).map fun p => (s.sliceFrom p).copy

theorem pos?_of_isValid {s : String} {off : String.Pos.Raw} (h : off.IsValid s) :
    s.pos? off = some (s.pos off h) := by
  rw [String.pos?, String.Slice.pos?, dif_pos (String.Pos.Raw.isValidForSlice_eq_true_iff.mpr h.toSlice)]
  rfl

/-- In front of the position at byte `n` stand `n` bytes. -/
theorem utf8ByteSize_of_pos? {n : Nat} {s : String} {p : s.Pos} (h : s.pos? ⟨n⟩ = some p) :
    (s.sliceTo p).copy.utf8ByteSize = n := by
  have hoffset : p.offset = ⟨n⟩ := by
    obtain ⟨q, hq, rfl⟩ := Option.map_eq_some_iff.mp h
    rw [String.Slice.pos?] at hq
    split at hq
    · cases hq
      rfl
    · cases hq
  rw [p.splits.offset_eq_rawEndPos] at hoffset
  exact congrArg String.Pos.Raw.byteIdx hoffset

/-- Behind the bytes of a text that another one begins with, the other one can be cut. -/
theorem exists_pos?_append (a b : String) :
    ∃ p, (a ++ b).pos? ⟨a.utf8ByteSize⟩ = some p ∧ p.Splits a b := by
  have hvalid : a.rawEndPos.IsValid (a ++ b) :=
    String.Pos.Raw.isValid_iff_exists_append.mpr ⟨a, b, rfl, rfl⟩
  exact ⟨_, pos?_of_isValid hvalid, String.Pos.splits_append_rawEndPos⟩

theorem upToByte?_eq_some_iff {n : Nat} {s a : String} :
    upToByte? n s = some a ↔ ∃ b, s = a ++ b ∧ a.utf8ByteSize = n := by
  constructor
  · intro h
    obtain ⟨p, hp, rfl⟩ := Option.map_eq_some_iff.mp h
    exact ⟨(s.sliceFrom p).copy, p.splits.eq_append, utf8ByteSize_of_pos? hp⟩
  · rintro ⟨b, rfl, rfl⟩
    obtain ⟨p, hp, hsplits⟩ := exists_pos?_append a b
    rw [upToByte?, hp, Option.map_some, hsplits.copy_sliceTo_eq]

theorem fromByte?_eq_some_iff {n : Nat} {s b : String} :
    fromByte? n s = some b ↔ ∃ a, s = a ++ b ∧ a.utf8ByteSize = n := by
  constructor
  · intro h
    obtain ⟨p, hp, rfl⟩ := Option.map_eq_some_iff.mp h
    exact ⟨(s.sliceTo p).copy, p.splits.eq_append, utf8ByteSize_of_pos? hp⟩
  · rintro ⟨a, rfl, rfl⟩
    obtain ⟨p, hp, hsplits⟩ := exists_pos?_append a b
    rw [fromByte?, hp, Option.map_some, hsplits.copy_sliceFrom_eq]

end DeviceMessaging.Text
