import DeviceMessaging.Proofs.Text.Numeral
import DeviceMessaging.Proofs.Text.Segments
import DeviceMessaging.Proofs.Text.Trim
import DeviceMessaging.Trace.Headers

/-!
# `Proofs.Trace.RoundTrip` — a context that travels in headers arrives

Headers are written with digits of fixed number and read by a rule that takes more than is ever written. What
is written is read back: the ids and the sampling flag are those of the context, and the context is known to
come from elsewhere.

## Contents
- `IsHexDigit`, `mem_hexadecimal`, `readBelow_hexadecimal`: numbers in hexadecimal.
- `parseTraceparent_traceparent`: the header that names a span.
- `ofHeaders?_toHeaders`: the headers of a context are read back.
- `Propagator.parent?_congr`, `Propagator.exists_parent?_inject`: the parent that headers name.
-/

namespace DeviceMessaging

open Text

/-! ## Numbers -/

/-- A digit in hexadecimal, as it is written. -/
def IsHexDigit (c : Char) : Prop := ∃ d < 16, c = Nat.digitChar d

theorem isHexDigit_of_mem_toDigits {n : Nat} {c : Char} (h : c ∈ Nat.toDigits 16 n) : IsHexDigit c := by
  induction n using Nat.strongRecOn with
  | ind n ih =>
      by_cases hn : n < 16
      · rw [Nat.toDigits_of_lt_base hn, List.mem_singleton] at h
        exact ⟨n, hn, h⟩
      · have hle : 16 ≤ n := Nat.le_of_not_lt hn
        have hlt : n / 16 < n := Nat.div_lt_self (by omega) (by omega)
        rw [Nat.toDigits_of_base_le (by omega) hle, List.mem_append, List.mem_singleton] at h
        rcases h with h | h
        · exact ih _ hlt h
        · exact ⟨n % 16, Nat.mod_lt _ (by omega), h⟩

theorem mem_hexadecimal {width n : Nat} {c : Char} (h : c ∈ (hexadecimal width n).toList) :
    IsHexDigit c := by
  rw [hexadecimal, String.toList_ofList, List.mem_append] at h
  rcases h with h | h
  · exact ⟨0, by omega, List.eq_of_mem_replicate h⟩
  · exact isHexDigit_of_mem_toDigits h

/-- Digits as they are written are no signs, no separators, no capitals and no blanks. -/
theorem IsHexDigit.plain {c : Char} (h : IsHexDigit c) :
    c ≠ '-' ∧ c ≠ '+' ∧ c.isUpper = false ∧ isBlank c = false := by
  obtain ⟨d, hd, rfl⟩ := h
  have hall : ∀ e < 16, Nat.digitChar e ≠ '-' ∧ Nat.digitChar e ≠ '+' ∧
      (Nat.digitChar e).isUpper = false ∧ isBlank (Nat.digitChar e) = false := by decide
  exact hall d hd

theorem hexadecimal_ne_nil (width n : Nat) : (hexadecimal width n).toList ≠ [] := by
  rw [hexadecimal, String.toList_ofList]
  exact List.append_ne_nil_of_right_ne_nil _ Nat.toDigits_ne_nil

/-- Zeros in front of a number change nothing. -/
theorem valueFrom?_replicate_zero (k : Nat) : valueFrom? 16 0 (List.replicate k '0') = some 0 := by
  induction k with
  | zero => rfl
  | succ k ih => exact ih

theorem value?_hexadecimal (width n : Nat) : value? 16 (hexadecimal width n).toList = some n := by
  rw [value?, if_neg (hexadecimal_ne_nil width n), hexadecimal, String.toList_ofList, valueFrom?_append,
    valueFrom?_replicate_zero]
  exact valueFrom?_toDigits (by decide) (by decide) n

/-- **A number in hexadecimal is read back**, however many digits it is filled up to. -/
theorem readBelow_hexadecimal {width n bound : Nat} (h : n < bound) :
    readBelow 16 bound (hexadecimal width n).toList = some n := by
  have hplus : '+' ∉ (hexadecimal width n).toList := by
    intro hmem
    exact (mem_hexadecimal hmem).plain.2.1 rfl
  rw [readBelow, afterPlus_of_not_mem hplus, value?_hexadecimal]
  simp [h]

theorem readId_hexadecimal {bits width n : Nat} (h : n < 1 <<< bits) :
    readId bits (hexadecimal width n).toList = some n := by
  have hupper : (hexadecimal width n).toList.any Char.isUpper = false := by
    rw [List.any_eq_false]
    intro c hc
    rw [(mem_hexadecimal hc).plain.2.2.1]
    exact Bool.false_ne_true
  rw [readId, hupper, if_neg Bool.false_ne_true, readBelow_hexadecimal h]

/-! ## The header that names a span -/

namespace SpanContext

variable (c : SpanContext)

/-- The sampling flag as it is written. -/
def flagText : String := if c.sampled then "01" else "00"

theorem traceparent_eq :
    c.traceparent = (String.singleton '-').intercalate ["00", c.traceIdText, c.spanIdText, c.flagText] := by
  apply String.toList_inj.mp
  simp [traceparent, flagText]

theorem segments_traceparent :
    segments '-' c.traceparent = ["00", c.traceIdText, c.spanIdText, c.flagText] := by
  have hhex : ∀ width n, '-' ∉ (hexadecimal width n).toList := by
    intro width n hmem
    exact (mem_hexadecimal hmem).plain.1 rfl
  rw [traceparent_eq]
  refine segments_intercalate (by simp) ?_
  intro w hw
  simp only [List.mem_cons, List.not_mem_nil, or_false] at hw
  rcases hw with rfl | rfl | rfl | rfl
  · decide
  · exact hhex 32 _
  · exact hhex 16 _
  · unfold flagText
    split <;> decide

theorem trim_traceparent : trim c.traceparent = c.traceparent := by
  apply trim_of_ends
  · intro d hd
    have hfirst : c.traceparent.toList.head? = some '0' := by simp [traceparent]
    rw [hfirst] at hd
    cases hd
    decide
  · intro d hd
    have hlast : c.traceparent.toList.getLast? = some (if c.sampled then '1' else '0') := by
      rw [traceparent, getLast?_toList_append (by split <;> decide)]
      split <;> rfl
    rw [hlast] at hd
    cases hd
    split <;> decide

/-- **The header that names a span is read back.** -/
theorem parseTraceparent_traceparent :
    parseTraceparent c.traceparent = some (c.traceId, c.spanId, c.sampled) := by
  have hparts : terminatedSegments '-' (trim c.traceparent) =
      ["00", c.traceIdText, c.spanIdText, c.flagText] := by
    have hflag : c.flagText ≠ "" := by
      unfold flagText
      split <;> decide
    rw [trim_traceparent, terminatedSegments, segments_traceparent]
    simp [hflag]
  have htrace : readId 128 c.traceIdText.toList = some c.traceId.toNat := readId_hexadecimal c.traceId.isLt
  have hspan : readId 64 c.spanIdText.toList = some c.spanId.toNat := readId_hexadecimal c.spanId.isLt
  have hversion : readBelow 16 255 "00".toList = some 0 := by decide
  have hflags : readBelow 16 256 c.flagText.toList = some (if c.sampled then 1 else 0) := by
    unfold flagText
    split <;> decide
  rw [parseTraceparent, hparts]
  simp only [List.map_cons, List.map_nil, hversion, htrace, hspan, hflags]
  cases hsampled : c.sampled <;> simp

/-! ## The headers of a context -/

/-- The headers of a valid context name its span. -/
theorem find?_toHeaders (h : c.isValid = true) :
    c.toHeaders.find? traceparentName = some c.traceparent := by
  rw [toHeaders, if_pos h, Keyed.find?_insert, if_neg (by decide), Keyed.find?_insert, if_pos rfl]

/-- **A valid context is read back from its headers**, as that of a span of another process. -/
theorem ofHeaders?_toHeaders (h : c.isValid = true) :
    ofHeaders? c.toHeaders = some { c with remote := true, state := TraceState.parse c.state.render } := by
  have hparent := c.find?_toHeaders h
  have hstate : c.toHeaders.find? tracestateName = some c.state.render := by
    rw [toHeaders, if_pos h, Keyed.find?_insert, if_pos rfl]
  have hvalid : ({ c with remote := true, state := TraceState.parse c.state.render } : SpanContext).isValid =
      true := h
  simp only [ofHeaders?, hparent, hstate, parseTraceparent_traceparent, Option.bind_eq_bind, Option.bind_some,
    Option.map_some, Option.getD_some]
  exact if_pos hvalid

end SpanContext

/-- Headers carry valid contexts only. -/
theorem SpanContext.isValid_of_ofHeaders? {headers : Headers} {c : SpanContext}
    (h : ofHeaders? headers = some c) : c.isValid = true := by
  simp only [ofHeaders?, Option.bind_eq_bind, Option.bind_eq_some_iff] at h
  obtain ⟨header, -, ids, -, h⟩ := h
  split at h
  · next hvalid =>
      cases h
      exact hvalid
  · cases h

/-! ## Propagation -/

namespace Propagator

variable {p : Propagator}

theorem isValid_of_parent? {headers : Option Headers} {c : SpanContext}
    (h : p.parent? headers = some c) : c.isValid = true := by
  cases headers with
  | none => cases h
  | some hs =>
      rw [parent?] at h
      split at h
      · cases p with
        | traceHeaders => exact SpanContext.isValid_of_ofHeaders? h
        | silent => cases h
      · cases h

/-- Headers without a `traceparent` name no parent. -/
theorem parent?_of_find?_none {hs : Headers} (h : hs.find? traceparentName = none) :
    p.parent? (some hs) = none := by
  rw [parent?, Keyed.contains, h]
  rfl

/-- Headers with a `traceparent` name the parent that is extracted from them. -/
theorem parent?_of_find?_some {hs : Headers} {value : String} (h : hs.find? traceparentName = some value) :
    p.parent? (some hs) = p.extract? hs := by
  rw [parent?, Keyed.contains, h]
  rfl

/-- **Only the two headers of a context have a say** in the parent. -/
theorem parent?_congr {hs hs' : Headers} (hparent : hs.find? traceparentName = hs'.find? traceparentName)
    (hstate : hs.find? tracestateName = hs'.find? tracestateName) :
    p.parent? (some hs) = p.parent? (some hs') := by
  have hextract : p.extract? hs = p.extract? hs' := by
    cases p with
    | traceHeaders =>
        show SpanContext.ofHeaders? hs = SpanContext.ofHeaders? hs'
        rw [SpanContext.ofHeaders?, SpanContext.ofHeaders?, hparent, hstate]
    | silent => rfl
  rw [parent?, parent?, Keyed.contains, Keyed.contains, hparent, hextract]

theorem parent?_silent (headers : Option Headers) : silent.parent? headers = none := by
  cases headers with
  | none => rfl
  | some hs =>
      rw [parent?]
      split <;> rfl

/-- **The headers of a span name this span as the parent.** -/
theorem exists_parent?_inject {c : SpanContext} (h : c.isValid = true) :
    ∃ parent, traceHeaders.parent? (some (traceHeaders.inject (some c))) = some parent ∧
      parent.traceId = c.traceId ∧ parent.spanId = c.spanId := by
  refine ⟨{ c with remote := true, state := TraceState.parse c.state.render }, ?_, rfl, rfl⟩
  show traceHeaders.parent? (some c.toHeaders) = _
  rw [parent?_of_find?_some (c.find?_toHeaders h)]
  exact SpanContext.ofHeaders?_toHeaders c h

end Propagator

end DeviceMessaging
