import DeviceMessaging.Text.LowerCase
import DeviceMessaging.Text.Numeral

/-!
# `Settings.Place` — which setting a variable holds, or what part of one

A variable name without its stem is a path: a name, then any number of steps into a map (`.name`) or into
a sequence (`[index]`). A variable with steps does not hold a setting but makes it a map or a sequence. A
text that is no path is a name as it stands.

## Contents
- `Place.Step`, `Place.readSteps?`: the steps of a path.
- `Place`, `Place.ofVariable?`.
- `Place.Held`, `Place.hold`: what a setting is after its variable was read.
-/

namespace DeviceMessaging

namespace Place

/-! ## Steps -/

/-- One step of a path. -/
inductive Step where
  /-- Into a map, to the value under a name. -/
  | member (name : List Char)
  /-- Into a sequence, to the value at an index. -/
  | item
  deriving DecidableEq

/-- The characters of names in paths. -/
def inStepName (c : Char) : Bool := c.isAlphanum || c == ' ' || c == '_' || c == '-'

/-- The blanks around an index. -/
def isIndexBlank (c : Char) : Bool := c == ' ' || c == '\t'

/-- How far from zero an index can be, upwards and downwards. -/
def indexBound (negative : Bool) : Nat := if negative then 0x8000000000000000 else 0x7fffffffffffffff

/-- Whether the digits `ds` write an index. -/
def isIndex (negative : Bool) (ds : List Char) : Bool :=
  (Text.value? 10 ds).any (· ≤ indexBound negative)

/-- Takes a minus sign off the front, if there is one. -/
def takeSign : List Char → Bool × List Char
  | '-' :: cs => (true, cs)
  | cs => (false, cs)

/-- What follows an index and the bracket that closes it. -/
def afterIndex? (cs : List Char) : Option (List Char) :=
  let (negative, cs) := takeSign (cs.dropWhile isIndexBlank)
  match (cs.dropWhile Char.isDigit).dropWhile isIndexBlank with
  | ']' :: rest => if isIndex negative (cs.takeWhile Char.isDigit) then some rest else none
  | _ => none

theorem length_dropWhile_le (p : Char → Bool) (cs : List Char) :
    (cs.dropWhile p).length ≤ cs.length :=
  (List.dropWhile_suffix p).length_le

theorem length_takeSign (cs : List Char) : (takeSign cs).2.length ≤ cs.length := by
  unfold takeSign
  split <;> simp

theorem length_afterIndex? {cs rest : List Char} (h : afterIndex? cs = some rest) :
    rest.length < cs.length := by
  simp only [afterIndex?] at h
  split at h
  · next heq =>
      split at h
      · obtain rfl := Option.some.inj h
        have h1 := congrArg List.length heq
        have h2 := length_dropWhile_le isIndexBlank cs
        have h3 := length_takeSign (cs.dropWhile isIndexBlank)
        have h4 := length_dropWhile_le Char.isDigit (takeSign (cs.dropWhile isIndexBlank)).2
        have h5 := length_dropWhile_le isIndexBlank
          ((takeSign (cs.dropWhile isIndexBlank)).2.dropWhile Char.isDigit)
        simp only [List.length_cons] at h1
        omega
      · cases h
  · cases h

/-- The steps that a text writes. -/
def readSteps? (cs : List Char) : Option (List Step) :=
  match cs with
  | [] => some []
  | c :: rest =>
    if c = '.' then
      if rest.takeWhile inStepName = [] then none
      else (readSteps? (rest.dropWhile inStepName)).map (.member (rest.takeWhile inStepName) :: ·)
    else if c = '[' then
      match _h : afterIndex? rest with
      | some rest' => (readSteps? rest').map (.item :: ·)
      | none => none
    else none
termination_by cs.length
decreasing_by
  · have := length_dropWhile_le inStepName rest
    simp only [List.length_cons]
    omega
  · have := length_afterIndex? ‹afterIndex? rest = some rest'›
    simp only [List.length_cons]
    omega

end Place

/-! ## Places -/

/-- A setting by name, and the steps from there. -/
structure Place where
  setting : String
  steps : List Place.Step

namespace Place

/-- The beginning of the lower-case name of every variable that holds settings. -/
def stem : List Char := "mqtt_adapter_".toList

/-- The place that a path names. What is no path names a setting as a whole. -/
def ofPath (cs : List Char) : Place :=
  let name := cs.takeWhile inStepName
  match readSteps? (cs.dropWhile inStepName) with
  | some steps => if name = [] then ⟨String.ofList cs, []⟩ else ⟨String.ofList name, steps⟩
  | none => ⟨String.ofList cs, []⟩

/-- The place that a variable holds, if it holds any. Letters of either case make the same name. -/
def ofVariable? (variableName : String) : Option Place :=
  let cs := (Text.lowerCase variableName).toList
  if stem.isPrefixOf cs then some (ofPath (cs.drop stem.length)) else none

/-! ## What is held -/

/-- What a setting is after its variable was read. -/
inductive Held where
  | text (value : String)
  | map
  | sequence
  deriving DecidableEq

/-- What the setting of a place is with a value there: the first step tells. -/
def hold (p : Place) (value : String) : Held :=
  match p.steps with
  | [] => .text value
  | .member _ :: _ => .map
  | .item :: _ => .sequence

end Place

end DeviceMessaging
