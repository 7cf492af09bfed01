/-!
# `Text.Fold` — comparison without regard to ASCII case

Only the 26 ASCII letters have two cases here; every other character stands for itself.

## Contents
- `sameLetters`: equality up to the case of ASCII letters.
- `afterLetters`: what follows a given beginning, compared in the same way.
-/

namespace DeviceMessaging.Text

/-- Two character sequences are equal up to the case of ASCII letters. -/
def sameLetters (a b : List Char) : Bool := a.map Char.toLower == b.map Char.toLower

/-- What follows the beginning `pattern` of `cs`, if `cs` begins with it up to ASCII case. -/
def afterLetters (pattern cs : List Char) : Option (List Char) :=
  if sameLetters (cs.take pattern.length) pattern then some (cs.drop pattern.length) else none

theorem afterLetters_eq_some_iff {pattern cs rest : List Char} :
    afterLetters pattern cs = some rest ↔
      ∃ front, cs = front ++ rest ∧ sameLetters front pattern = true := by
  constructor
  · intro h
    by_cases hs : sameLetters (cs.take pattern.length) pattern = true
    · simp only [afterLetters, hs, if_true, Option.some.injEq] at h
      exact ⟨cs.take pattern.length, by rw [← h, List.take_append_drop], hs⟩
    · simp [afterLetters, hs] at h
  · rintro ⟨front, rfl, hs⟩
    have hlen : front.length = pattern.length := by
      have : front.map Char.toLower = pattern.map Char.toLower := by simpa [sameLetters] using hs
      simpa using congrArg List.length this
    have htake : (front ++ rest).take pattern.length = front := by simp [← hlen]
    have hdrop : (front ++ rest).drop pattern.length = rest := by simp [← hlen]
    simp [afterLetters, htake, hdrop, hs]

end DeviceMessaging.Text
