import DeviceMessaging.Journal
import DeviceMessaging.Text.Fold
import DeviceMessaging.Text.Numeral

/-!
# `Telemetry.Threshold` — how severe a record has to be

## Contents
- `Threshold`, with `allows` and `loosest`; `allows_loosest`.
- `Threshold.ofName?`: thresholds by word and by number.
-/

namespace DeviceMessaging

/-- The least severe level that passes, if any does. -/
abbrev Threshold := Option Level

namespace Threshold

/-- Whether a level passes. -/
def allows (t : Threshold) (level : Level) : Bool := t.any fun least => level.rank ≤ least.rank

/-- How many levels pass. -/
def reach (t : Threshold) : Nat := (t.map Level.rank).getD 0

/-- The threshold that lets all pass which one of `ts` lets pass. -/
def loosest (ts : List Threshold) : Threshold :=
  ts.foldl (fun a b => if a.reach < b.reach then b else a) none

theorem allows_eq (t : Threshold) (level : Level) : t.allows level = decide (level.rank ≤ t.reach) := by
  cases t with
  | none => cases level <;> rfl
  | some least => rfl

theorem reach_foldl (ts : List Threshold) (t : Threshold) :
    (ts.foldl (fun a b => if a.reach < b.reach then b else a) t).reach =
      ts.foldl (fun n b => max n b.reach) t.reach := by
  induction ts generalizing t with
  | nil => rfl
  | cons b ts ih =>
      rw [List.foldl_cons, List.foldl_cons, ih]
      congr 1
      split <;> omega

theorem le_foldl_max (ts : List Threshold) (n k : Nat) :
    n ≤ ts.foldl (fun m b => max m b.reach) k ↔ n ≤ k ∨ ∃ b ∈ ts, n ≤ b.reach := by
  induction ts generalizing k with
  | nil => simp
  | cons b ts ih =>
      have hmax : n ≤ max k b.reach ↔ n ≤ k ∨ n ≤ b.reach := by omega
      rw [List.foldl_cons, ih, hmax, or_assoc]
      simp only [List.mem_cons, exists_eq_or_imp]

/-- The loosest threshold lets pass what one of them lets pass. -/
theorem allows_loosest (ts : List Threshold) (level : Level) :
    (loosest ts).allows level = ts.any fun t => t.allows level := by
  rw [Bool.eq_iff_iff, allows_eq, loosest, reach_foldl, decide_eq_true_eq, le_foldl_max]
  simp only [List.any_eq_true, allows_eq, decide_eq_true_eq, or_iff_right_iff_imp]
  intro h
  cases level <;> simp [Level.rank, reach] at h

/-- The thresholds, in the order of their numbers. -/
def named : List (String × Threshold) := [
  ("off", none), ("error", some .error), ("warn", some .warn), ("info", some .info),
  ("debug", some .debug), ("trace", some .trace)]

/-- The threshold of a name in letters of any case, or of a number. -/
def ofName? (name : List Char) : Option Threshold :=
  match Text.readBelow 10 named.length name with
  | some n => named[n]?.map Prod.snd
  | none => (named.find? fun t => Text.sameLetters name t.1.toList).map Prod.snd

end Threshold

end DeviceMessaging
