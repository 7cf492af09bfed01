import DeviceMessaging.Keyed
import DeviceMessaging.Text.Split

/-!
# `PropertyBag` — the parameters that follow a topic

A topic may end in a question mark and a query of `key=value` pairs. The bag holds the pairs: a key
that occurs again keeps its place and takes the later value. Nothing is decoded.

## Contents
- `queryPairs`: the pairs that a query text writes, in order.
- `PropertyBag`, with `ofQuery`, `get?`, `contains`, `size`, `isEmpty`, `query`.
- `PropertyBag.split` and `PropertyBag.appendTo`: taking a bag off a topic, and putting it back.
-/

namespace DeviceMessaging

/-! ## Query texts -/

/-- The key and value of one piece of a query; without an equals sign the value is empty. -/
def queryPair (piece : String) : String × String := (Text.cut '=' piece).getD (piece, "")

/-- The pairs of a query text, in order, those with an empty key left out. -/
def queryPairs (query : String) : List (String × String) :=
  ((Text.segments '&' query).map queryPair).filter fun p => decide (p.1 ≠ "")

/-! ## The bag -/

/-- Parameters of a topic, in the order in which their keys first occur. -/
structure PropertyBag where
  properties : Keyed String String
  deriving DecidableEq

namespace PropertyBag

/-- The bag without parameters. -/
def empty : PropertyBag := ⟨Keyed.empty⟩

/-- The bag of a query text. -/
def ofQuery (query : String) : PropertyBag := ⟨Keyed.ofList (queryPairs query)⟩

/-- The parameters as pairs. -/
def entries (bag : PropertyBag) : List (String × String) := bag.properties.entries

/-- The value of a parameter. -/
def get? (bag : PropertyBag) (key : String) : Option String := bag.properties.find? key

/-- Whether a parameter is given. -/
def contains (bag : PropertyBag) (key : String) : Bool := bag.properties.contains key

/-- The number of parameters. -/
def size (bag : PropertyBag) : Nat := bag.properties.size

/-- Whether no parameter is given. -/
def isEmpty (bag : PropertyBag) : Bool := bag.properties.isEmpty

/-- The bag as a query text. -/
def query (bag : PropertyBag) : String :=
  "&".intercalate (bag.entries.map fun p => p.1 ++ "=" ++ p.2)

/-! ## Bags and topics -/

/-- Takes the bag off a topic: what precedes the first question mark, less one slash, is the base. -/
def split (topic : String) : String × PropertyBag :=
  match Text.cut '?' topic with
  | none => (topic, empty)
  | some (base, query) => (Text.dropLast '/' base, ofQuery query)

/-- Puts the bag behind a base; an empty bag leaves no trace. -/
def appendTo (bag : PropertyBag) (base : String) : String :=
  if bag.isEmpty then base else base ++ "/?" ++ bag.query

end PropertyBag

end DeviceMessaging
