import DeviceMessaging.Telemetry.Directive

/-!
# `Telemetry.Filter` — which records appear in the log

A filter is a list of directives separated by commas; without any, nothing passes. Of the directives that
do not ask for a span or a value, the most specific one that covers a record decides about it. The others
give each span they are about a threshold, by which the records in that span pass as well.

## Contents
- `Filter`, with `parse?` and `parseLenient`.
- `Filter.decisive?`, `Filter.spanThreshold`: the two ways in which directives decide.
- `Filter.passes`: events and spans that appear in the log.
-/

namespace DeviceMessaging

/-- Directives, the later ones over the earlier ones about the same records. -/
structure Filter where
  directives : List Directive

namespace Filter

/-! ## Reading -/

/-- The words of a filter text. -/
def words (text : String) : List String := (Text.segments ',' text).filter fun w => decide (w ≠ "")

/-- Reads a filter of which every word is a directive. -/
def parse? (text : String) : Option Filter := ((words text).mapM Directive.read?).map Filter.mk

/-- Reads a filter and leaves out what is no directive. If nothing is left, errors pass. -/
def parseLenient (text : String) : Filter :=
  match (words text).filterMap Directive.read? with
  | [] => ⟨[{ threshold := some .error }]⟩
  | ds => ⟨ds⟩

/-! ## Deciding by the record alone -/

/-- Of two directives that cover a record, the one that decides. -/
def preferred (best : Option Directive) (d : Directive) : Option Directive :=
  match best with
  | none => some d
  | some b => if b.yieldsTo d then some d else some b

/-- The directive that decides about the records of a callsite. -/
def decisive? (f : Filter) (site : Callsite) : Option Directive :=
  (f.directives.filter fun d => d.covers site).foldl preferred none

/-! ## Deciding by the spans around a record -/

/-- The directives about spans, less those that a later one replaces. -/
def spanDirectives (f : Filter) : List Directive :=
  (f.directives.filter Directive.isScoped).foldl
    (fun ds d => ds.filter (fun e => !Directive.sameSubject e d) ++ [d]) []

/-- The directives about the spans of a callsite. -/
def concerning (f : Filter) (site : Callsite) : List Directive :=
  f.spanDirectives.filter fun d => d.concerns site

/-- The threshold by which records pass in a span that was opened with given values. -/
def spanThreshold (f : Filter) (site : Callsite) (values : Fields) : Threshold :=
  .loosest (((f.concerning site).filter fun d => d.satisfied values).map Directive.threshold)

/-! ## Passing -/

/-- The threshold of all records. Replaced directives count here too, and where a value is tested
everything can pass. -/
def outermost (f : Filter) : Threshold :=
  if f.directives.any Directive.testsValue then some .trace
  else .loosest (f.directives.map Directive.threshold)

/-- Whether records of a callsite pass, in spans with the thresholds `around`. Spans that a directive is
about pass, so that it can decide in them. -/
def passes (f : Filter) (site : Callsite) (around : List Threshold) : Bool :=
  f.outermost.allows site.level &&
    (!(f.concerning site).isEmpty ||
      ((f.decisive? site).any fun d => d.threshold.allows site.level) ||
      around.any fun t => t.allows site.level)

end Filter

end DeviceMessaging
