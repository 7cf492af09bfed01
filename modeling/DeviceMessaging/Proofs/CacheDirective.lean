import DeviceMessaging.CacheDirective
import DeviceMessaging.Proofs.Text.Letters
import DeviceMessaging.Proofs.Text.Numeral
import DeviceMessaging.Proofs.Text.Trim

/-!
# `Proofs.CacheDirective` — which texts are directives

A directive is a name, and behind one of the two names a number of seconds. The name is taken in any case and
the number with a sign and with zeros in front, so a directive has many texts, of which one is written.

## Contents
- `WritesAge`, with `ofChars_eq_noCache_iff`, `ofChars_eq_maxAge_iff` and `ofChars_eq_none_iff`: the texts of a
  directive, without the blanks around them.
- `parseBytes?`, with `parseBytes?_eq`: reading by bytes never cuts a character in two.
- `parse_of_sameButCase`: what is written is read back, with blanks around it and in any case.
- `directives_by_grammar`: what becomes of every text, with `directive_in_capitals`.
-/

namespace DeviceMessaging

namespace CacheDirective

open Text

/-! ## The grammar -/

/-- The text is the name of an age, in any case, and behind it the numeral of the number `n`. -/
def WritesAge (v : String) (n : Nat) : Prop :=
  ∃ name number, v = name ++ number ∧ SameButCase name "max-age=" ∧ IsNumeral number n

/-- The number behind the name is read if it is below the bound. -/
theorem readBelow_afterLetters_iff {v : String} {n : Nat} :
    (afterLetters maxAgeText v.toList).bind (readBelow 10 UInt64.size) = some n ↔
      WritesAge v n ∧ n < UInt64.size := by
  rw [Option.bind_eq_some_iff]
  constructor
  · rintro ⟨rest, hrest, hread⟩
    obtain ⟨name, number, hv, hname, rfl⟩ := exists_append_of_afterLetters hrest
    obtain ⟨hnumber, hlt⟩ := readBelow_ten_eq_some_iff.mp hread
    exact ⟨⟨name, number, hv, hname, hnumber⟩, hlt⟩
  · rintro ⟨⟨name, number, rfl, hname, hnumber⟩, hlt⟩
    exact ⟨number.toList, afterLetters_append hname number, readBelow_ten_eq_some_iff.mpr ⟨hnumber, hlt⟩⟩

/-- The two names begin with different letters. -/
theorem not_writesAge_of_noCache {v : String} (h : SameButCase v "no-cache") (n : Nat) : ¬WritesAge v n := by
  rintro ⟨name, number, rfl, hname, -⟩
  have hv : (name ++ number).toList.map Char.toLower = "no-cache".toList := eq_of_beq (sameLetters_iff.mpr h)
  have hfront : name.toList.map Char.toLower = "max-age=".toList := eq_of_beq (sameLetters_iff.mpr hname)
  rw [String.toList_append, List.map_append, hfront] at hv
  exact absurd (congrArg List.head? hv) (by simp)

theorem ofChars_eq_noCache_iff {v : String} :
    ofChars v.toList = some .noCache ↔ SameButCase v "no-cache" := by
  rw [ofChars, ← sameLetters_iff]
  by_cases h : sameLetters v.toList noCacheText = true
  · rw [if_pos h]
    exact ⟨fun _ => h, fun _ => rfl⟩
  · rw [if_neg h]
    refine ⟨fun hage => ?_, fun hname => absurd hname h⟩
    obtain ⟨n, -, hn⟩ := Option.map_eq_some_iff.mp hage
    cases hn

theorem ofChars_eq_maxAge_iff {v : String} {a : UInt64} :
    ofChars v.toList = some (.maxAge a) ↔ WritesAge v a.toNat := by
  by_cases h : SameButCase v "no-cache"
  · rw [ofChars_eq_noCache_iff.mpr h]
    constructor
    · intro hage
      cases hage
    · intro hage
      exact absurd hage (not_writesAge_of_noCache h _)
  · have hname : ¬sameLetters v.toList noCacheText = true := fun hname => h (sameLetters_iff.mp hname)
    rw [ofChars, if_neg hname, Option.map_eq_some_iff]
    constructor
    · rintro ⟨n, hn, hage⟩
      obtain ⟨hwrites, hlt⟩ := readBelow_afterLetters_iff.mp hn
      obtain rfl : n.toUInt64 = a := CacheDirective.maxAge.inj hage
      have hsame : n.toUInt64.toNat = n := UInt64.toNat_ofNat_of_lt' hlt
      rwa [hsame]
    · intro hwrites
      exact ⟨a.toNat, readBelow_afterLetters_iff.mpr ⟨hwrites, a.toNat_lt_size⟩, by simp⟩

/-- All other texts are refused: among them are the ages that are too large. -/
theorem ofChars_eq_none_iff {v : String} :
    ofChars v.toList = none ↔ ¬SameButCase v "no-cache" ∧ ∀ n, WritesAge v n → UInt64.size ≤ n := by
  rw [Option.eq_none_iff_forall_ne_some]
  constructor
  · intro h
    refine ⟨fun hname => h _ (ofChars_eq_noCache_iff.mpr hname), fun n hwrites => ?_⟩
    by_contra hlt
    have hsame : n.toUInt64.toNat = n := UInt64.toNat_ofNat_of_lt' (Nat.lt_of_not_le hlt)
    refine h (.maxAge n.toUInt64) (ofChars_eq_maxAge_iff.mpr ?_)
    rwa [hsame]
  · rintro ⟨hname, hlarge⟩ d hd
    cases d with
    | noCache => exact hname (ofChars_eq_noCache_iff.mp hd)
    | maxAge a =>
        have hle := hlarge a.toNat (ofChars_eq_maxAge_iff.mp hd)
        exact absurd a.toNat_lt_size (Nat.not_lt_of_le hle)

theorem parse_eq_ok_iff {s : String} {d : CacheDirective} :
    parse s = .ok d ↔ ofChars (trim s).toList = some d := by
  rw [parse]
  split
  · next e he => rw [he, Except.ok.injEq, Option.some.injEq]
  · next he =>
      rw [he]
      constructor <;> intro h <;> cases h

theorem parse_eq_error_iff {s : String} {e : Error} :
    parse s = .error e ↔ e = .invalidCacheDirective (trim s) ∧ ofChars (trim s).toList = none := by
  rw [parse]
  split
  · next d hd =>
      rw [hd]
      constructor
      · intro h
        cases h
      · rintro ⟨-, h⟩
        cases h
  · next hd =>
      rw [hd, Except.error.injEq, eq_comm]
      exact (and_iff_left rfl).symm

/-! ## Bytes -/

/-- The number of bytes of the name of an age. -/
def nameBytes : Nat := "max-age=".utf8ByteSize

example : nameBytes = 8 := by decide

/-- Reading a trimmed text by its bytes: the text up to a certain byte is looked at, if there is one, and if it
is the name of an age, the text is cut at this byte without looking again. There is no outcome if that cuts a
character in two. -/
def ofBytes? (v : String) : Option (Option CacheDirective) :=
  if sameLetters v.toList noCacheText then some (some .noCache)
  else
    match upToByte? nameBytes v with
    | none => some none
    | some name =>
      if sameLetters name.toList maxAgeText then
        (fromByte? nameBytes v).map fun number =>
          (readBelow 10 UInt64.size number.toList).map fun n => .maxAge n.toUInt64
      else some none

/-- Reading a text by its bytes. -/
def parseBytes? (s : String) : Option (Except Error CacheDirective) :=
  (ofBytes? (trim s)).map fun found =>
    match found with
    | some d => .ok d
    | none => .error (.invalidCacheDirective (trim s))

/-- Behind the name of an age a text can be cut, whatever follows. -/
theorem bytes_of_sameButCase {name : String} (h : SameButCase name "max-age=") (number : String) :
    upToByte? nameBytes (name ++ number) = some name ∧ fromByte? nameBytes (name ++ number) = some number :=
  ⟨upToByte?_eq_some_iff.mpr ⟨number, rfl, h.utf8ByteSize_eq⟩,
    fromByte?_eq_some_iff.mpr ⟨name, rfl, h.utf8ByteSize_eq⟩⟩

/-- **Reading by bytes never cuts a character in two**, and comes to the same. -/
theorem ofBytes?_eq (v : String) : ofBytes? v = some (ofChars v.toList) := by
  rw [ofBytes?, ofChars]
  by_cases hnoCache : sameLetters v.toList noCacheText = true
  · rw [if_pos hnoCache, if_pos hnoCache]
  · rw [if_neg hnoCache, if_neg hnoCache]
    cases hrest : afterLetters maxAgeText v.toList with
    | some rest =>
        obtain ⟨name, number, rfl, hname, rfl⟩ := exists_append_of_afterLetters hrest
        obtain ⟨hfront, hback⟩ := bytes_of_sameButCase hname number
        have hage : sameLetters name.toList maxAgeText = true := sameLetters_iff.mpr hname
        rw [hfront]
        dsimp only
        rw [if_pos hage, hback, Option.map_some]
        rfl
    | none =>
        cases hfront : upToByte? nameBytes v with
        | none => rfl
        | some name =>
            -- what stands there is not the name, for then it would have been passed over
            obtain ⟨number, rfl, -⟩ := upToByte?_eq_some_iff.mp hfront
            have hage : ¬sameLetters name.toList maxAgeText = true := by
              intro hage
              have hsome : afterLetters maxAgeText (name ++ number).toList = some number.toList :=
                afterLetters_append (sameLetters_iff.mp hage) number
              rw [hrest] at hsome
              cases hsome
            dsimp only
            rw [if_neg hage]
            rfl

theorem parseBytes?_eq (s : String) : parseBytes? s = some (parse s) := by
  cases h : ofChars (trim s).toList with
  | none =>
      have hparse : parse s = .error (.invalidCacheDirective (trim s)) := parse_eq_error_iff.mpr ⟨rfl, h⟩
      simp only [parseBytes?, ofBytes?_eq, h, hparse, Option.map_some]
  | some d =>
      have hparse : parse s = .ok d := parse_eq_ok_iff.mpr h
      simp only [parseBytes?, ofBytes?_eq, h, hparse, Option.map_some]

/-! ## Writing and reading -/

/-- What is written has visible characters only. -/
theorem isVisible_of_mem_render {d : CacheDirective} {c : Char} (h : c ∈ d.render.toList) :
    isVisible c = true := by
  have hnoCache : "no-cache".toList.all isVisible = true := by decide
  have hmaxAge : "max-age=".toList.all isVisible = true := by decide
  cases d with
  | noCache => exact List.all_eq_true.mp hnoCache c h
  | maxAge a =>
      rw [render, String.toList_append, List.mem_append] at h
      rcases h with h | h
      · exact List.all_eq_true.mp hmaxAge c h
      · exact isVisible_of_isDigit (isDigit_of_mem_decimal h)

/-- In another case there are no blanks in it either. -/
theorem bareEnds_of_sameButCase {text : String} {d : CacheDirective} (h : SameButCase text d.render) :
    BareEnds text := by
  apply bareEnds_of_forall
  intro c hc
  obtain ⟨e, he, hsame⟩ := h.exists_mem hc
  rw [hsame.isBlank_eq]
  exact isBlank_of_isVisible (isVisible_of_mem_render he)

/-- What is written is a text of the directive, in any case. -/
theorem ofChars_of_sameButCase {text : String} {d : CacheDirective} (h : SameButCase text d.render) :
    ofChars text.toList = some d := by
  cases d with
  | noCache => exact ofChars_eq_noCache_iff.mpr h
  | maxAge a =>
      obtain ⟨name, number, rfl, hname, hnumber⟩ := h.exists_append
      have hdigits : number = decimal a.toNat := hnumber.eq_of_digits fun c => isDigit_of_mem_decimal
      rw [hdigits]
      exact ofChars_eq_maxAge_iff.mpr ⟨name, _, rfl, hname, isNumeral_decimal a.toNat⟩

/-- **What is written is read back**, with blanks around it and in any case. -/
theorem parse_of_sameButCase {d : CacheDirective} {before text after : String} (hbefore : AllBlank before)
    (hafter : AllBlank after) (h : SameButCase text d.render) : parse (before ++ text ++ after) = .ok d := by
  rw [parse_eq_ok_iff, trim_between hbefore (bareEnds_of_sameButCase h) hafter]
  exact ofChars_of_sameButCase h

/-! ## All texts -/

/-- What becomes of a text `s` that is `v` but for the blanks around it. -/
structure ReadAs (s v : String) : Prop where
  /-- The blanks are at the two ends, and `v` has none there. -/
  trimmed : BareEnds v ∧ ∃ before after, AllBlank before ∧ AllBlank after ∧ s = before ++ v ++ after
  noCache : parse s = .ok .noCache ↔ SameButCase v "no-cache"
  maxAge : ∀ a : UInt64, parse s = .ok (.maxAge a) ↔ WritesAge v a.toNat
  /-- Everything else is refused, numbers of more than 64 bits among it. -/
  refused : ∀ e, parse s = .error e ↔ e = .invalidCacheDirective v ∧ ¬SameButCase v "no-cache" ∧
    ∀ n, WritesAge v n → UInt64.size ≤ n
  /-- So are texts in which no character ends where the name would. -/
  uncut : upToByte? nameBytes v = none → parse s = .error (.invalidCacheDirective v)
  /-- No character is ever cut in two. -/
  bytes : parseBytes? s = some (parse s)

theorem readAs_trim (s : String) : ReadAs s (trim s) where
  trimmed := trim_eq_iff.mp rfl
  noCache := parse_eq_ok_iff.trans ofChars_eq_noCache_iff
  maxAge a := parse_eq_ok_iff.trans ofChars_eq_maxAge_iff
  refused e := parse_eq_error_iff.trans (and_congr_right fun _ => ofChars_eq_none_iff)
  uncut h := by
    refine parse_eq_error_iff.mpr ⟨rfl, ofChars_eq_none_iff.mpr ⟨?_, ?_⟩⟩
    · intro hname
      have hbytes : (trim s).utf8ByteSize = nameBytes := hname.utf8ByteSize_eq.trans (by decide)
      have hcut := upToByte?_eq_some_iff.mpr ⟨"", (String.append_empty).symm, hbytes⟩
      rw [h] at hcut
      cases hcut
    · rintro n ⟨name, number, hv, hname, -⟩
      have hcut := (bytes_of_sameButCase hname number).1
      rw [← hv, h] at hcut
      cases hcut
  bytes := parseBytes?_eq s

/-- **Directives are read by their grammar, and what is written is read back.** -/
theorem directives_by_grammar :
    (∀ s, ReadAs s (trim s)) ∧
    ∀ (d : CacheDirective) (before text after : String), AllBlank before → AllBlank after →
      SameButCase text d.render → parse (before ++ text ++ after) = .ok d :=
  ⟨readAs_trim, fun _ _ _ _ => parse_of_sameButCase⟩

/-- An age with capitals in its name, between a tab and a wide space; and a text in which a letter of two bytes
stands where the name would end. -/
theorem directive_in_capitals :
    AllBlank "\t" ∧ AllBlank "\u3000" ∧ SameButCase "MAX-Age=300" (render (.maxAge 300)) ∧
    parse ("\t" ++ "MAX-Age=300" ++ "\u3000") = .ok (.maxAge 300) ∧
    upToByte? nameBytes (trim "max-ageé") = none ∧
    parse "max-ageé" = .error (.invalidCacheDirective (trim "max-ageé")) := by
  have hbefore : AllBlank "\t" := by decide
  have hafter : AllBlank "\u3000" := by decide
  have hsame : SameButCase "MAX-Age=300" (render (.maxAge 300)) := by decide
  have hcut : upToByte? nameBytes (trim "max-ageé") = none := by decide
  exact ⟨hbefore, hafter, hsame, directives_by_grammar.2 _ _ _ _ hbefore hafter hsame, hcut,
    (directives_by_grammar.1 _).uncut hcut⟩

/-- A plus sign and zeros are passed over, and the number fits exactly; one more is too large. -/
example : parse "max-age=+018446744073709551615" = .ok (.maxAge 18446744073709551615) ∧
    parse "max-age=18446744073709551616" =
      .error (.invalidCacheDirective "max-age=18446744073709551616") := by decide

end CacheDirective

end DeviceMessaging
