import DeviceMessaging.Telemetry.Filter

/-!
# `Telemetry.LogLine` — the log as a view of the journal

Each event that passes the filter is a line of the log, together with the spans that were open and pass
the filter too, as they were at that moment.

## Contents
- `LogLine`, `Filter.shown`, `Journal.logLines`.
-/

namespace DeviceMessaging

/-- A line of the log. -/
structure LogLine where
  event : Event
  /-- The open spans, outermost first. -/
  spans : List SpanRecord

namespace LogLine

/-- The innermost span of a line. -/
def current? (l : LogLine) : Option SpanRecord := l.spans.getLast?

end LogLine

/-- Those of some open spans, innermost first, that pass a filter, and the thresholds that they set for
the records in them. A span was opened among those outside it. -/
def Filter.shown (f : Filter) : List SpanRecord → List SpanRecord × List Threshold
  | [] => ([], [])
  | s :: outer =>
    let (spans, around) := f.shown outer
    let site := s.spec.callsite
    if f.passes site around then (s :: spans, f.spanThreshold site s.spec.fields :: around)
    else (spans, around)

namespace Journal

/-- The line of one entry, where `before` is all that happened before it. -/
def logLine? (filter : Filter) (before : Journal) : Entry → Option LogLine
  | .event e scope =>
    let (spans, around) := filter.shown (scope.filterMap before.span?)
    if filter.passes e.callsite around then some { event := e, spans := spans.reverse } else none
  | _ => none

/-- The lines of the entries after `before`. -/
def logLinesFrom (filter : Filter) (before : Journal) : List Entry → List LogLine
  | [] => []
  | e :: es => (logLine? filter before e).toList ++ logLinesFrom filter (before ++ [e]) es

/-- The log of a journal. -/
def logLines (filter : Filter) (j : Journal) : List LogLine := logLinesFrom filter [] j

end Journal

end DeviceMessaging
