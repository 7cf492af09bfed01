import DeviceMessaging.Operations
import Mathlib.Data.List.Induction

/-!
# `Proofs.Operations` — registries and the steps that made them

A registry is made step by step: an operation gets a handler, or all the others get a fallback. Names may
come again, and then only the last handler counts. So what a registry does with an operation can be read off
its history, with no look at the registry.

## Contents
- `Operations.Edit`, `Operations.ofEdits`: histories of registries.
- `lastHandler?`, `lastFallback?`: the last that the steps say of an operation, and of all the others.
- `find?_ofEdits`, `fallback_ofEdits`, `selected_ofEdits`: the registry says the same.
- `contains_ofEdits_iff`: which operations have a handler of their own.
-/

namespace DeviceMessaging

namespace Operations

/-! ## Histories -/

/-- One step in the making of a registry. -/
inductive Edit where
  | handler (operation : String) (handler : Handler)
  | fallback (handler : Handler)

/-- The registry after one more step. -/
def edited (ops : Operations) : Edit → Operations
  | .handler op h => ops.withHandler op h
  | .fallback h => ops.withFallback h

/-- The registry that the steps make of the one that refuses everything. -/
def ofEdits (edits : List Edit) : Operations := edits.foldl edited standard

theorem ofEdits_concat (edits : List Edit) (e : Edit) :
    ofEdits (edits ++ [e]) = (ofEdits edits).edited e := by
  unfold ofEdits
  rw [List.foldl_append, List.foldl_cons, List.foldl_nil]

/-- The handler that a step gives to an operation. -/
def Edit.handlerFor? (operation : String) : Edit → Option Handler
  | handler op h => if op = operation then some h else none
  | fallback _ => none

/-- The fallback that a step gives. -/
def Edit.fallback? : Edit → Option Handler
  | handler _ _ => none
  | fallback h => some h

/-- The last handler that the steps give to an operation. -/
def lastHandler? (operation : String) (edits : List Edit) : Option Handler :=
  edits.reverse.findSome? (Edit.handlerFor? operation)

/-- The last fallback that the steps give. -/
def lastFallback? (edits : List Edit) : Option Handler := edits.reverse.findSome? Edit.fallback?

theorem lastHandler?_concat (operation : String) (edits : List Edit) (e : Edit) :
    lastHandler? operation (edits ++ [e]) =
      (e.handlerFor? operation).or (lastHandler? operation edits) := by
  unfold lastHandler?
  rw [List.reverse_append, List.reverse_singleton, List.singleton_append, List.findSome?_cons]
  cases e.handlerFor? operation <;> rfl

theorem lastFallback?_concat (edits : List Edit) (e : Edit) :
    lastFallback? (edits ++ [e]) = e.fallback?.or (lastFallback? edits) := by
  unfold lastFallback?
  rw [List.reverse_append, List.reverse_singleton, List.singleton_append, List.findSome?_cons]
  cases e.fallback? <;> rfl

/-! ## What the registry says -/

/-- **The handler of an operation** is the last that it was given. -/
theorem find?_ofEdits (operation : String) (edits : List Edit) :
    (ofEdits edits).handlers.find? operation = lastHandler? operation edits := by
  induction edits using List.reverseRecOn with
  | nil => rfl
  | append_singleton edits e ih =>
      rw [ofEdits_concat, lastHandler?_concat, ← ih]
      cases e with
      | handler op h =>
          show ((ofEdits edits).handlers.insert op h).find? operation = _
          rw [Keyed.find?_insert, Edit.handlerFor?]
          by_cases hop : op = operation
          · rw [if_pos hop.symm, if_pos hop, Option.some_or]
          · rw [if_neg (Ne.symm hop), if_neg hop, Option.none_or]
      | fallback h => rfl

/-- **The fallback** is the last one given. -/
theorem fallback_ofEdits (edits : List Edit) : (ofEdits edits).fallback = lastFallback? edits := by
  induction edits using List.reverseRecOn with
  | nil => rfl
  | append_singleton edits e ih =>
      rw [ofEdits_concat, lastFallback?_concat, ← ih]
      cases e <;> rfl

/-- The handler that an operation gets, read off the steps. -/
theorem selected_ofEdits (edits : List Edit) (operation : String) :
    (ofEdits edits).selected operation =
      match lastHandler? operation edits with
      | some h => some (some operation, h)
      | none => (lastFallback? edits).map fun h => (none, h) := by
  unfold selected
  rw [find?_ofEdits]
  cases lastHandler? operation edits with
  | some h => rfl
  | none => exact congrArg (Option.map fun h => (none, h)) (fallback_ofEdits edits)

/-- An operation has a handler of its own when some step gave it one. -/
theorem contains_ofEdits_iff {edits : List Edit} {operation : String} :
    (ofEdits edits).contains operation = true ↔ ∃ h, .handler operation h ∈ edits := by
  show ((ofEdits edits).handlers.find? operation).isSome = true ↔ _
  rw [find?_ofEdits, lastHandler?, List.findSome?_isSome_iff]
  constructor
  · rintro ⟨e, he, hsome⟩
    cases e with
    | handler op h =>
        by_cases hop : op = operation
        · subst hop
          exact ⟨h, List.mem_reverse.mp he⟩
        · rw [Edit.handlerFor?, if_neg hop] at hsome
          cases hsome
    | fallback h => cases hsome
  · rintro ⟨h, hmem⟩
    refine ⟨.handler operation h, List.mem_reverse.mpr hmem, ?_⟩
    rw [Edit.handlerFor?, if_pos rfl]
    rfl

end Operations

end DeviceMessaging
