import DeviceMessaging.Text.Numeral

/-!
# `Proofs.Text.Numeral` — which texts write a number

## Contents
- `digit?_ten_eq_some_iff`, `valueFrom?_ten_eq_some_iff`: decimal digits and what they are worth.
- `IsNumeral`, with `readBelow_ten_eq_some_iff`: the texts that are read as a number.
- `isNumeral_decimal`: a number as it is written.
-/

namespace DeviceMessaging.Text

/-! ## Digits -/

theorem isDigit_iff_le {c : Char} : c.isDigit = true ↔ '0' ≤ c ∧ c ≤ '9' := by
  rw [Char.isDigit, Bool.and_eq_true, decide_eq_true_eq, decide_eq_true_eq]
  rfl

/-- Letters are no decimal digits. -/
theorem digit?_ten_eq_some_iff {c : Char} {d : Nat} :
    digit? 10 c = some d ↔ c.isDigit = true ∧ c.toNat - '0'.toNat = d := by
  by_cases hc : '0' ≤ c ∧ c ≤ '9'
  · have hdigit := isDigit_iff_le.mpr hc
    have hlt : c.toNat - '0'.toNat < 10 := by
      have hbounds := Char.isDigit_iff_toNat.mp hdigit
      have hnine : '9'.toNat = '0'.toNat + 9 := rfl
      omega
    rw [digit?, if_pos hc, if_pos hlt, Option.some.injEq]
    exact ⟨fun h => ⟨hdigit, h⟩, fun h => h.2⟩
  · have hnone : digit? 10 c = none := by
      rw [digit?, if_neg hc]
      refine if_neg ?_
      split
      · omega
      · split <;> omega
    rw [hnone]
    constructor
    · intro h
      cases h
    · intro h
      exact absurd (isDigit_iff_le.mp h.1) hc

theorem valueFrom?_ten_eq_some_iff {cs : List Char} {m n : Nat} :
    valueFrom? 10 m cs = some n ↔ (∀ c ∈ cs, c.isDigit = true) ∧ Nat.ofDigitChars 10 cs m = n := by
  induction cs generalizing m with
  | nil => simp [valueFrom?]
  | cons c cs ih =>
      rw [valueFrom?, Option.bind_eq_some_iff, Nat.ofDigitChars_cons, List.forall_mem_cons]
      constructor
      · rintro ⟨d, hd, hrest⟩
        obtain ⟨hdigit, rfl⟩ := digit?_ten_eq_some_iff.mp hd
        obtain ⟨hdigits, hvalue⟩ := ih.mp hrest
        exact ⟨⟨hdigit, hdigits⟩, hvalue⟩
      · rintro ⟨⟨hdigit, hdigits⟩, hvalue⟩
        exact ⟨_, digit?_ten_eq_some_iff.mpr ⟨hdigit, rfl⟩, ih.mpr ⟨hdigits, hvalue⟩⟩

/-! ## Signs -/

theorem afterPlus_of_not_mem {cs : List Char} (h : '+' ∉ cs) : afterPlus cs = cs := by
  unfold afterPlus
  split
  · exact absurd List.mem_cons_self h
  · rfl

/-- At most one sign is passed over. -/
theorem exists_eq_append_afterPlus (cs : List Char) :
    ∃ sign : String, (sign = "" ∨ sign = "+") ∧ cs = sign.toList ++ afterPlus cs := by
  unfold afterPlus
  split
  · exact ⟨"+", .inr rfl, by simp⟩
  · exact ⟨"", .inl rfl, by simp⟩

/-! ## Numerals -/

/-- A sign and digits that write the number `n`: the sign is a plus sign or missing, and there may be zeros in
front of the other digits. -/
structure Numeral (sign digits : String) (n : Nat) : Prop where
  sign : sign = "" ∨ sign = "+"
  digits_ne : digits ≠ ""
  all_digits : ∀ c ∈ digits.toList, c.isDigit = true
  value : Nat.ofDigitChars 10 digits.toList 0 = n

/-- The text writes the number `n`. -/
def IsNumeral (s : String) (n : Nat) : Prop := ∃ sign digits, s = sign ++ digits ∧ Numeral sign digits n

theorem Numeral.afterPlus_eq {sign digits : String} {n : Nat} (h : Numeral sign digits n) :
    afterPlus (sign ++ digits).toList = digits.toList := by
  rw [String.toList_append]
  rcases h.sign with rfl | rfl
  · refine afterPlus_of_not_mem fun hplus => ?_
    exact absurd (h.all_digits '+' hplus) (by decide)
  · rfl

/-- **The texts that are read as a number** are those that write one below the bound. -/
theorem readBelow_ten_eq_some_iff {bound n : Nat} {s : String} :
    readBelow 10 bound s.toList = some n ↔ IsNumeral s n ∧ n < bound := by
  rw [readBelow, Option.filter_eq_some_iff, decide_eq_true_eq, value?]
  refine and_congr_left' ?_
  constructor
  · intro h
    split at h
    · cases h
    · next hne =>
        obtain ⟨hdigits, hvalue⟩ := valueFrom?_ten_eq_some_iff.mp h
        obtain ⟨sign, hsign, heq⟩ := exists_eq_append_afterPlus s.toList
        refine ⟨sign, String.ofList (afterPlus s.toList), ?_, hsign, by simpa using hne, ?_, ?_⟩
        · exact String.toList_inj.mp (by simpa using heq)
        · rwa [String.toList_ofList]
        · rwa [String.toList_ofList]
  · rintro ⟨sign, digits, rfl, h⟩
    rw [h.afterPlus_eq, if_neg (by simpa using h.digits_ne)]
    exact valueFrom?_ten_eq_some_iff.mpr ⟨h.all_digits, h.value⟩

theorem isDigit_of_mem_decimal {n : Nat} {c : Char} (h : c ∈ (decimal n).toList) : c.isDigit = true := by
  rw [decimal, String.toList_ofList] at h
  exact Nat.isDigit_of_mem_toDigits (by decide) (by decide) h

/-- A number is written as a numeral, without a sign. -/
theorem isNumeral_decimal (n : Nat) : IsNumeral (decimal n) n := by
  refine ⟨"", decimal n, by simp, .inl rfl, ?_, fun c => isDigit_of_mem_decimal, ?_⟩
  · simp [decimal]
  · rw [decimal, String.toList_ofList]
    exact Nat.ofDigitChars_ten_toDigits

end DeviceMessaging.Text
