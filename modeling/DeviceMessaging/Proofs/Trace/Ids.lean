import DeviceMessaging.Trace.Context

/-!
# `Proofs.Trace.Ids` — ids that tell spans apart

## Contents
- `IdSource.Proper`, with `proper_apartFrom`: the ids in use are proper.
- `isValid_context`: a span with a proper id is valid.
-/

namespace DeviceMessaging

namespace IdSource

/-- The ids of the first `count` spans are none of zeros, and no two of these spans have the same one. -/
structure Proper (ids : IdSource) (count : Nat) : Prop where
  trace_ne : ∀ n < count, ids.traceId n ≠ 0
  span_ne : ∀ n < count, ids.spanId n ≠ 0
  distinct : ∀ m < count, ∀ n < count, ids.spanId m = ids.spanId n → m = n

/-- The ids in use are proper, as long as there are fewer spans than ids in a run. -/
theorem proper_apartFrom {known : List SpanContext} {count : Nat} (hcount : count < runLength)
    (hknown : known.length < runLength) : (apartFrom known).Proper count := by
  have hrun : ∀ ids : List Nat, ids.length = known.length → freeRun ids < runLength := by
    intro ids hids
    have hle := (firstAbsent_le_and_not_mem (ids.map (· / runLength))).1
    rw [List.length_map, hids] at hle
    exact Nat.lt_of_le_of_lt hle hknown
  have htraces := hrun (known.map fun c => c.traceId.toNat) (List.length_map _)
  have hspans := hrun (known.map fun c => c.spanId.toNat) (List.length_map _)
  -- below the end of a run no id is cut off
  have htrace : ∀ n < count, ((apartFrom known).traceId n).toNat =
      inRun (freeRun (known.map fun c => c.traceId.toNat)) n := by
    intro n hn
    show (BitVec.ofNat 128 _).toNat = _
    rw [BitVec.toNat_ofNat, Nat.mod_eq_of_lt]
    unfold inRun runLength at *
    omega
  have hspan : ∀ n < count, ((apartFrom known).spanId n).toNat =
      inRun (freeRun (known.map fun c => c.spanId.toNat)) n := by
    intro n hn
    show (BitVec.ofNat 64 _).toNat = _
    rw [BitVec.toNat_ofNat, Nat.mod_eq_of_lt]
    unfold inRun runLength at *
    omega
  refine ⟨?_, ?_, ?_⟩
  · intro n hn hzero
    have heq := htrace n hn
    rw [hzero, inRun] at heq
    exact absurd heq (by simp)
  · intro n hn hzero
    have heq := hspan n hn
    rw [hzero, inRun] at heq
    exact absurd heq (by simp)
  · intro m hm n hn hsame
    have heq := hspan m hm
    rw [hsame, hspan n hn, inRun, inRun] at heq
    omega

/-- A span with a proper id below a valid parent is valid. -/
theorem isValid_context {ids : IdSource} {count n : Nat} (h : ids.Proper count) (hn : n < count)
    {parent : Option SpanContext} (hparent : ∀ c, parent = some c → c.isValid = true) :
    (ids.context n parent).isValid = true := by
  have hspan : (ids.spanId n != 0) = true := bne_iff_ne.mpr (h.span_ne n hn)
  cases parent with
  | none =>
      have htrace : (ids.traceId n != 0) = true := bne_iff_ne.mpr (h.trace_ne n hn)
      show (ids.traceId n != 0 && ids.spanId n != 0) = true
      rw [htrace, hspan]
      rfl
  | some c =>
      have hc := hparent c rfl
      rw [SpanContext.isValid, Bool.and_eq_true] at hc
      show (c.traceId != 0 && ids.spanId n != 0) = true
      rw [hc.1, hspan]
      rfl

end IdSource

end DeviceMessaging
