import DeviceMessaging.Telemetry.Callsite
import DeviceMessaging.Telemetry.Threshold
import DeviceMessaging.Text.Alphanumeric
import DeviceMessaging.Text.Blank
import DeviceMessaging.Text.Number
import DeviceMessaging.Text.Pattern.Machine
import DeviceMessaging.Text.Pattern.Reader
import DeviceMessaging.Text.Split

/-!
# `Telemetry.Directive` — one directive of a filter

A directive sets a threshold for records: for all (`level`), for those under a target (`target` or
`target=level`), or for those in spans of a given name, with a given field, or with a given value in that
field (`target[span{field=value}]=level`, where each part may be left out). Without a level everything
passes.

## Contents
- `ValueTest`, `FieldTest`, `Directive`.
- `Directive.read?`.
- `Directive.covers`, `Directive.yieldsTo`: the records about which a directive decides by themselves.
- `Directive.concerns`, `Directive.satisfied`: the spans that it is about.
-/

namespace DeviceMessaging

/-! ## Types -/

/-- What a value is tested for. -/
inductive ValueTest where
  /-- A truth value or a number. No text is one, whatever it reads. -/
  | typed
  /-- A text in which the match of the pattern that `text` writes reaches the end. -/
  | pattern (text : List Char) (p : Text.Pattern)
  deriving DecidableEq

/-- A field that records are to have, and what its value is tested for. -/
structure FieldTest where
  name : String
  value? : Option ValueTest
  deriving DecidableEq

/-- One part of a filter. -/
structure Directive where
  /-- The beginning of the targets that it is about. -/
  target : String := ""
  span? : Option String := none
  field? : Option FieldTest := none
  threshold : Threshold := some .trace

/-! ## Reading -/

namespace ValueTest

/-- Reads what a value is tested for. -/
def read? (text : List Char) : Option ValueTest :=
  if text = "true".toList ∨ text = "false".toList ∨ Text.isNumber text then some typed
  else (Text.Pattern.parse? text).map (pattern text)

end ValueTest

namespace FieldTest

/-- Reads `name` or `name=value`. What follows a second equals sign does not count. -/
def read? (text : List Char) : Option FieldTest :=
  if text = [] then none
  else
    match Text.cutChars '=' text with
    | none => some ⟨String.ofList text, none⟩
    | some (name, rest) =>
      (ValueTest.read? (rest.takeWhile (· != '='))).map fun v => ⟨String.ofList name, some v⟩

end FieldTest

namespace Directive

/-- The characters with which a target begins. -/
def beginsTarget (c : Char) : Bool := c == '-' || c == ':' || c == '_' || Text.isAlphanumeric c

/-- How far the reading of a directive has come. A number tells at which byte the part being read
begins. -/
inductive Stage where
  | start
  | word
  | span (first : Nat)
  | field (first : Nat)
  | closing
  | closed
  | level (first : Nat)

/-- What follows the first `n` bytes, if they end between two characters. -/
def dropBytes : Nat → List Char → Option (List Char)
  | 0, cs => some cs
  | _, [] => none
  | n + 1, c :: cs => if c.utf8Size ≤ n + 1 then dropBytes (n + 1 - c.utf8Size) cs else none

/-- The first `n` bytes, if they end between two characters. -/
def takeBytes (n : Nat) (cs : List Char) : Option (List Char) :=
  (dropBytes n cs).map fun rest => cs.take (cs.length - rest.length)

/-- The bytes of a text from `first` on up to `last`, which is left out. -/
def bytes (source : List Char) (first last : Nat) : Option (List Char) :=
  (takeBytes last source).bind (dropBytes first)

/-- The threshold that the end of a directive names. -/
def readThreshold? (text : List Char) : Option Threshold :=
  if text = [] then some (some .trace) else Threshold.ofName? text

/-- What a directive is that ends at a stage, where `d` are the parts read before. -/
def finish? (source : List Char) (d : Directive) : Stage → Option Directive
  | .word =>
    match Threshold.ofName? source with
    | some t => some { d with threshold := t }
    | none => some { d with target := String.ofList source }
  | .level first => do
    let text ← dropBytes first source
    return { d with threshold := ← readThreshold? text }
  | .closed => some d
  | _ => none

/-- Goes on by the character `c` at byte number `n`. -/
def step? (source : List Char) (n : Nat) (c : Char) (d : Directive) :
    Stage → Option (Directive × Stage)
  | .start =>
    if c = '[' then some (d, .span (n + 1)) else if beginsTarget c then some (d, .word) else none
  | .word =>
    if c = '=' ∨ c = '[' then do
      let target ← bytes source 0 n
      some ({ d with target := String.ofList target }, if c = '=' then .level (n + 1) else .span (n + 1))
    else some (d, .word)
  | .span first =>
    if c = ']' then do
      let name ← bytes source first n
      some ({ d with span? := some (String.ofList name) }, .closed)
    else if c = '\x7b' then do
      let name ← bytes source first n
      some ({ d with span? := if name = [] then none else some (String.ofList name) }, .field (n + 1))
    else some (d, .span first)
  | .field first =>
    if c = '\x7d' then do
      let test ← FieldTest.read? (← bytes source first n)
      some ({ d with field? := some test }, .closing)
    else some (d, .field first)
  | .closing => if c = ']' then some (d, .closed) else none
  | .closed => if c = '=' then some (d, .level (n + 1)) else none
  | .level first => some (d, .level first)

/-- Reads the characters of a directive from byte number `n` on. -/
def readFrom? (source : List Char) (n : Nat) (d : Directive) (stage : Stage) :
    List Char → Option Directive
  | [] => finish? source d stage
  | c :: cs => do
    let (d, stage) ← step? source n c d stage
    readFrom? source (n + c.utf8Size) d stage cs

/-- Reads one directive. Its parts are found in the text without the blanks around it, but are cut out of
the text with them: blanks in front displace all parts. -/
def read? (text : String) : Option Directive :=
  readFrom? text.toList 0 {} .start (Text.trim text).toList

/-! ## Records by themselves -/

/-- Whether a directive is about targets of which `target` is one. -/
def coversTarget (d : Directive) (target : String) : Bool :=
  d.target.toList.isPrefixOf target.toList

/-- Whether a directive tests the value of a field. -/
def testsValue (d : Directive) : Bool := d.field?.any fun f => f.value?.isSome

/-- Whether a directive decides about the records of a callsite by themselves. It does if it asks for no
span and no value. A field that it names has to be one of an event; spans are decided about whatever their
fields. -/
def covers (d : Directive) (site : Callsite) : Bool :=
  d.span?.isNone && !d.testsValue && d.coversTarget site.target &&
    (site.span?.isSome || d.field?.all fun f => site.fields.contains f.name)

/-- The name of the field that a directive asks for, the empty one if it asks for none. -/
def fieldName (d : Directive) : String := (d.field?.map FieldTest.name).getD ""

/-- Whether `b` is as specific as `a` or more: by the length of its target, then by asking for a field,
then by the name of that field. -/
def yieldsTo (a b : Directive) : Bool :=
  if a.target.utf8ByteSize ≠ b.target.utf8ByteSize then
    a.target.utf8ByteSize < b.target.utf8ByteSize
  else if a.field?.isSome ≠ b.field?.isSome then b.field?.isSome
  else a.fieldName ≤ b.fieldName

/-! ## Spans -/

/-- Whether a directive is about records in certain spans. -/
def isScoped (d : Directive) : Bool := d.span?.isSome || d.field?.isSome

/-- Whether a directive is about the spans that open at a callsite. -/
def concerns (d : Directive) (site : Callsite) : Bool :=
  site.span?.isSome && d.coversTarget site.target && d.span?.all (fun name => site.span? == some name) &&
    d.field?.all fun f => site.fields.contains f.name

/-- Whether a span that a directive is about passes the test of its value, with the values that it was
opened with. -/
def satisfied (d : Directive) (values : Fields) : Bool :=
  match d.field?.bind fun f => f.value?.map (f.name, ·) with
  | none => true
  | some (_, .typed) => false
  | some (name, .pattern _ p) => values.any fun v => v.1 == name && p.reachesEnd v.2.toList

/-- Two directives that are about the same records. -/
def sameSubject (a b : Directive) : Bool :=
  a.target == b.target && a.span? == b.span? && a.field? == b.field?

end Directive

end DeviceMessaging
