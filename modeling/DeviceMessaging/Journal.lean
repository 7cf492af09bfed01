import DeviceMessaging.Request

/-!
# `Journal` — spans, events and calls in the order in which they happen

Whatever a computation shows to the outside is an entry of a journal: spans that open, take values and
close, events, and calls of collaborators. Spans are numbered from zero in the order of their opening.

## Contents
- `Level`, `Origin`: how severe a record is, and which part of the program writes it.
- `Event`, `SpanSpec`, `Call`: what entries tell.
- `Entry`, `Journal`, with `Journal.spansOpened`.
- `SpanRecord` and the view `Journal.span?`: all that a journal says about one span.
-/

namespace DeviceMessaging

/-! ## Records -/

/-- How severe a record is. -/
inductive Level where
  | trace
  | debug
  | info
  | warn
  | error
  deriving DecidableEq

namespace Level

/-- The name of a level. -/
def name : Level → String
  | trace => "TRACE"
  | debug => "DEBUG"
  | info => "INFO"
  | warn => "WARN"
  | error => "ERROR"

/-- The place of a level in the order of severity. -/
def rank : Level → Nat
  | trace => 5
  | debug => 4
  | info => 3
  | warn => 2
  | error => 1

end Level

/-- The part of the program that writes a record. -/
inductive Origin where
  | dispatcher
  | customOperations
  | logging
  | requestSpan
  | deviceConnection
  | client
  | clientRegistry
  | publishContext
  deriving DecidableEq

/-- The target under which the records of a part appear in the log. -/
def Origin.target : Origin → String
  | dispatcher => "common::dispatch::dispatcher"
  | customOperations => "common::dispatch::custom_operation"
  | logging => "common::dispatch::logging"
  | requestSpan => "common::dispatch::span"
  | deviceConnection => "device_connection::adapter"
  | client => "device_connection::client::device_connection_client"
  | clientRegistry => "device_connection::client::client_factory"
  | publishContext => "mqtt_adapter::mqtt::context"

/-- Named values, as text. -/
abbrev Fields := List (String × String)

/-- A record of one moment. -/
structure Event where
  level : Level
  origin : Origin
  message : String
  fields : Fields
  deriving DecidableEq

/-- Where the parent of a new span comes from. -/
inductive ParentSource where
  /-- The headers of a request; without a parent in them the span is a root. -/
  | headers (headers : Option Headers)
  /-- The innermost span that is open where the new one is opened. -/
  | current

/-- A span that is to be opened. -/
structure SpanSpec where
  name : String
  origin : Origin
  level : Level
  /-- The fields that it is opened with. -/
  fields : Fields
  /-- The names of fields that may get a value later. -/
  openFields : List String := []
  parent : ParentSource

/-- A call of a collaborator. -/
inductive Call where
  /-- The backend is asked for the gateway of a device. -/
  | getGateway (tenant device : String)
  /-- The backend is told the gateway of a device. -/
  | setGateway (tenant device gateway : String)
  /-- A custom handler is run: the one of an operation, or the fallback. -/
  | handler (operation : Option String) (request : Request)
  /-- A service instance is called, which was driven to readiness before or was not. -/
  | service (ready : Bool) (request : Request)

/-- A span that is open: its number and its identity. -/
structure OpenSpan where
  number : Nat
  context : SpanContext
  deriving DecidableEq

/-! ## Entries -/

/-- One thing that happened. A scope lists the numbers of the spans that were open then, innermost
first. -/
inductive Entry where
  | opened (span : OpenSpan) (spec : SpanSpec) (parent : Option SpanContext)
  | recorded (number : Nat) (name value : String)
  | event (event : Event) (scope : List Nat)
  | called (call : Call) (scope : List Nat)
  | closed (number : Nat)

/-- What happened, oldest first. -/
abbrev Journal := List Entry

namespace Entry

/-- Whether the entry opens a span. -/
def isOpened : Entry → Bool
  | opened .. => true
  | _ => false

end Entry

namespace Journal

/-- How many spans were opened; the number of the next one. -/
def spansOpened (j : Journal) : Nat := j.countP Entry.isOpened

@[simp] theorem spansOpened_append (a b : Journal) :
    spansOpened (a ++ b) = spansOpened a + spansOpened b := by
  simp [spansOpened]

end Journal

/-! ## The view of one span -/

/-- All that a journal says about one span. -/
structure SpanRecord where
  number : Nat
  context : SpanContext
  /-- The span as it was opened. -/
  spec : SpanSpec
  parent : Option SpanContext
  /-- The fields recorded since. -/
  noted : Fields := []

namespace SpanRecord

/-- The name of a span. -/
def name (s : SpanRecord) : String := s.spec.name

/-- The fields that a span was opened with, and those recorded since. -/
def fields (s : SpanRecord) : Fields := s.spec.fields ++ s.noted

/-- The record after one more entry. -/
def note (s : SpanRecord) : Entry → SpanRecord
  | .recorded n name value =>
    if n = s.number then { s with noted := s.noted ++ [(name, value)] } else s
  | _ => s

end SpanRecord

namespace Journal

/-- The record of span number `n` at its opening. -/
def opening? (n : Nat) : Entry → Option SpanRecord
  | .opened span spec parent =>
    if span.number = n then some { number := n, context := span.context, spec, parent } else none
  | _ => none

/-- What a journal says about span number `n`. -/
def span? (j : Journal) (n : Nat) : Option SpanRecord :=
  (j.findSome? (opening? n)).map fun s => j.foldl SpanRecord.note s

/-- The number of the span that an entry opens, if a context names that span. -/
def openedAs? (c : SpanContext) : Entry → Option Nat
  | .opened span _ _ => if span.context.sameSpan c then some span.number else none
  | _ => none

/-- The span that a context names, if it is one of this journal. -/
def spanOf? (j : Journal) (c : SpanContext) : Option SpanRecord := (j.findSome? (openedAs? c)).bind j.span?

end Journal

end DeviceMessaging
