import DeviceMessaging.Keyed
import DeviceMessaging.Text.Blank
import DeviceMessaging.Trace.Context

/-!
# `Trace.Headers` — trace contexts in request headers

A request carries the identity of the caller's span in the headers `traceparent` and `tracestate`.
Writing uses version 00; reading takes every version up to 254.

## Contents
- `Headers`, `traceparent`, `tracestate`.
- `SpanContext.traceparent` and `SpanContext.toHeaders`: writing.
- `parseTraceparent` and `SpanContext.ofHeaders?`: reading.
- `Propagator`: the format in use, if any, with `inject`, `extract?` and `parent?`.
-/

namespace DeviceMessaging

/-- Headers of a request by name. -/
abbrev Headers := Keyed String String

/-- The header that names the caller's span. -/
def traceparentName : String := "traceparent"

/-- The header that carries the vendor entries of the trace. -/
def tracestateName : String := "tracestate"

/-! ## Writing -/

namespace SpanContext

/-- The `traceparent` header of a context. -/
def traceparent (c : SpanContext) : String :=
  "00-" ++ c.traceIdText ++ "-" ++ c.spanIdText ++ "-" ++ (if c.sampled then "01" else "00")

/-- The headers of a context; an identity of zeros leaves no headers. -/
def toHeaders (c : SpanContext) : Headers :=
  if c.isValid then
    (Keyed.empty.insert traceparentName c.traceparent).insert tracestateName c.state.render
  else Keyed.empty

end SpanContext

/-! ## Reading -/

/-- An id in hexadecimal without capitals. -/
def readId (bits : Nat) (cs : List Char) : Option Nat :=
  if cs.any Char.isUpper then none else Text.readBelow 16 (1 <<< bits) cs

/-- The ids and the sampling flag of a `traceparent` header. Version 0 has exactly four parts and knows
no flags above 2. -/
def parseTraceparent (header : String) : Option (BitVec 128 × BitVec 64 × Bool) :=
  match (Text.terminatedSegments '-' (Text.trim header)).map String.toList with
  | version :: trace :: span :: flags :: more => do
    let v ← Text.readBelow 16 255 version
    if v = 0 ∧ more ≠ [] then none
    else
      let t ← readId 128 trace
      let s ← readId 64 span
      let f ← Text.readBelow 16 256 flags
      if v = 0 ∧ 2 < f then none
      else some (BitVec.ofNat 128 t, BitVec.ofNat 64 s, f % 2 == 1)
  | _ => none

/-- The context that headers carry, if it is a valid one. -/
def SpanContext.ofHeaders? (headers : Headers) : Option SpanContext := do
  let header ← headers.find? traceparentName
  let (traceId, spanId, sampled) ← parseTraceparent header
  let state := ((headers.find? tracestateName).map TraceState.parse).getD TraceState.empty
  let c : SpanContext := { traceId, spanId, sampled, remote := true, state }
  if c.isValid then some c else none

/-! ## Propagation -/

/-- The format in which contexts travel. -/
inductive Propagator where
  /-- The headers above. -/
  | traceHeaders
  /-- Contexts do not travel. -/
  | silent
  deriving DecidableEq

namespace Propagator

/-- The headers for a request that is made while `current` is the innermost span. -/
def inject (p : Propagator) (current : Option SpanContext) : Headers :=
  match p, current with
  | .traceHeaders, some c => c.toHeaders
  | _, _ => Keyed.empty

/-- The context that headers carry. -/
def extract? (p : Propagator) (headers : Headers) : Option SpanContext :=
  match p with
  | .traceHeaders => SpanContext.ofHeaders? headers
  | .silent => none

/-- The parent that a request gives its span: only a `traceparent` header names one. -/
def parent? (p : Propagator) (headers : Option Headers) : Option SpanContext :=
  match headers with
  | some h => if h.contains traceparentName then p.extract? h else none
  | none => none

end Propagator

end DeviceMessaging
