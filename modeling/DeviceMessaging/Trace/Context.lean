import DeviceMessaging.Text.Numeral
import DeviceMessaging.Trace.State

/-!
# `Trace.Context` — the identity of a span in its trace

## Contents
- `SpanContext`, with `isValid` and `sameSpan`.
- `IdSource`: where the identities of new spans come from; `IdSource.apartFrom` and
  `spanId_apartFrom_ne`: identities that are not known from elsewhere.
- `IdSource.context` makes the identity of a new span from that of its parent.
-/

namespace DeviceMessaging

/-- What other processes know of a span. -/
structure SpanContext where
  traceId : BitVec 128
  spanId : BitVec 64
  sampled : Bool
  /-- The span belongs to another process. -/
  remote : Bool
  state : TraceState
  deriving DecidableEq

namespace SpanContext

/-- An identity of zeros is none. -/
def isValid (c : SpanContext) : Bool := c.traceId != 0 && c.spanId != 0

/-- Two contexts name the same span of the same trace. -/
def sameSpan (a b : SpanContext) : Bool := a.traceId == b.traceId && a.spanId == b.spanId

/-- The trace id in hexadecimal. -/
def traceIdText (c : SpanContext) : String := Text.hexadecimal 32 c.traceId.toNat

/-- The span id in hexadecimal. -/
def spanIdText (c : SpanContext) : String := Text.hexadecimal 16 c.spanId.toNat

end SpanContext

/-- Where ids for new traces and spans come from, by the number of the span. -/
structure IdSource where
  traceId : Nat → BitVec 128
  spanId : Nat → BitVec 64

namespace IdSource

/-- How many ids make a run. -/
def runLength : Nat := 0x100000000

/-- The first number that is not in a list. -/
def firstAbsent (l : List Nat) : Nat :=
  ((List.range (l.length + 1)).find? fun n => !l.contains n).getD 0

/-- The first run of ids in which none of the ids `taken` is. -/
def freeRun (taken : List Nat) : Nat := firstAbsent (taken.map (· / runLength))

/-- The id number `n` in a run. -/
def inRun (run n : Nat) : Nat := run * runLength + n + 1

/-- Ids in sequence, out of runs in which there are no ids of the contexts `known` from elsewhere. -/
def apartFrom (known : List SpanContext) : IdSource :=
  let traces := freeRun (known.map fun c => c.traceId.toNat)
  let spans := freeRun (known.map fun c => c.spanId.toNat)
  { traceId := fun n => BitVec.ofNat 128 (inRun traces n)
    spanId := fun n => BitVec.ofNat 64 (inRun spans n) }

/-- A list of all numbers below `n` has at least `n` entries. -/
theorem le_length_of_forall_mem {l : List Nat} {n : Nat} (h : ∀ k < n, k ∈ l) : n ≤ l.length := by
  induction n generalizing l with
  | zero => omega
  | succ n ih =>
      have mem : n ∈ l := h n (by omega)
      have rest : n ≤ (l.erase n).length := ih fun k hk =>
        (List.mem_erase_of_ne (by omega)).2 (h k (by omega))
      have pos : 0 < l.length := List.length_pos_of_mem mem
      rw [List.length_erase_of_mem mem] at rest
      omega

theorem firstAbsent_le_and_not_mem (l : List Nat) : firstAbsent l ≤ l.length ∧ firstAbsent l ∉ l := by
  rw [firstAbsent]
  cases found : (List.range (l.length + 1)).find? fun n => !l.contains n with
  | none =>
    have all : ∀ k < l.length + 1, k ∈ l := fun k hk => by
      simpa using List.find?_eq_none.1 found k (List.mem_range.2 hk)
    have := le_length_of_forall_mem all
    omega
  | some n =>
    have below := List.mem_range.1 (List.mem_of_find?_eq_some found)
    have absent := List.find?_some found
    exact ⟨Nat.lt_succ_iff.1 below, by simpa using absent⟩

/-- No span gets the id of a span that is known from elsewhere. -/
theorem spanId_apartFrom_ne {known : List SpanContext} {c : SpanContext} (hc : c ∈ known) {n : Nat}
    (hn : n + 1 < runLength) (hk : known.length < runLength) :
    (apartFrom known).spanId n ≠ c.spanId := by
  intro same
  have taken : c.spanId.toNat ∈ known.map fun c => c.spanId.toNat := List.mem_map.2 ⟨c, hc, rfl⟩
  obtain ⟨le, free⟩ :=
    firstAbsent_le_and_not_mem ((known.map fun c => c.spanId.toNat).map (· / runLength))
  rw [List.length_map, List.length_map] at le
  have value : inRun (freeRun (known.map fun c => c.spanId.toNat)) n = c.spanId.toNat := by
    rw [← same]
    simp only [apartFrom, BitVec.toNat_ofNat]
    rw [Nat.mod_eq_of_lt]
    simp only [inRun, freeRun, runLength] at *
    omega
  refine free (List.mem_map.2 ⟨c.spanId.toNat, taken, ?_⟩)
  rw [← value]
  simp only [inRun, freeRun, runLength] at *
  omega

/-- The identity of span number `n`: in the trace of its parent, or at the root of a trace of its own. -/
def context (ids : IdSource) (n : Nat) (parent : Option SpanContext) : SpanContext where
  traceId := (parent.map SpanContext.traceId).getD (ids.traceId n)
  spanId := ids.spanId n
  sampled := true
  remote := false
  state := (parent.map SpanContext.state).getD TraceState.empty

end IdSource

end DeviceMessaging
