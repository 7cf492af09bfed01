import DeviceMessaging.Text.Split

/-!
# `Trace.State` — the vendor entries of a trace

The `tracestate` header is a list of `key=value` members separated by commas. A header with one bad
member counts as a whole as empty.

## Contents
- `TraceState`, with `render` and `parse`.
- `validStateKey`, `validStateValue`: what members may look like.
-/

namespace DeviceMessaging

/-- The vendor entries of a trace, in the order of the header. -/
structure TraceState where
  members : List (String × String)
  deriving DecidableEq

/-- The characters with which a key, or the part of it after its at sign, begins. -/
def beginsStateKey (c : Char) : Bool := ('a' ≤ c && c ≤ 'z') || ('0' ≤ c && c ≤ '9')

/-- The characters of a key. -/
def inStateKey (c : Char) : Bool :=
  beginsStateKey c || c == '_' || c == '-' || c == '*' || c == '/' || c == '@'

/-- A key: at most 256 bytes, at most one at sign with at most 13 characters behind it. -/
def validStateKey (key : List Char) : Bool :=
  key.length ≤ 256 && key.all inStateKey && (key.head?.all beginsStateKey) &&
    match Text.cutChars '@' key with
    | none => true
    | some (_, vendor) =>
      !vendor.contains '@' && vendor.length ≤ 13 && vendor.head?.all beginsStateKey

/-- A value: at most 256 bytes, free of commas and equals signs. -/
def validStateValue (value : String) : Bool :=
  value.utf8ByteSize ≤ 256 && !value.toList.contains ',' && !value.toList.contains '='

/-- One member of the header; of several equals signs in a row all belong to the separator. -/
def stateMember? (member : String) : Option (String × String) :=
  (Text.cut '=' member).bind fun (key, rest) =>
    let value := String.ofList (rest.toList.dropWhile (· == '='))
    if validStateKey key.toList && validStateValue value then some (key, value) else none

namespace TraceState

/-- The state without entries. -/
def empty : TraceState := ⟨[]⟩

/-- The text of the header. -/
def render (s : TraceState) : String := ",".intercalate (s.members.map fun m => m.1 ++ "=" ++ m.2)

/-- Reads the header. -/
def parse (header : String) : TraceState :=
  ⟨((Text.terminatedSegments ',' header).mapM stateMember?).getD []⟩

end TraceState

end DeviceMessaging
