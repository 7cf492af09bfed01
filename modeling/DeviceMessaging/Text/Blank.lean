/-!
# `Text.Blank` — white space and trimming

White space is the Unicode property `White_Space`, the set that topic aliases, cache directives and
trace headers are trimmed of.

## Contents
- `isBlank`, the class, and `isBlank_of_isWhitespace`: it contains the ASCII blanks.
- `trim`, which removes blanks at both ends of a text.
-/

namespace DeviceMessaging.Text

/-- The code points with the Unicode property `White_Space`. -/
def isBlank (c : Char) : Bool :=
  let n := c.toNat
  (0x09 ≤ n && n ≤ 0x0D) || n == 0x20 || n == 0x85 || n == 0xA0 || n == 0x1680 ||
    (0x2000 ≤ n && n ≤ 0x200A) || n == 0x2028 || n == 0x2029 || n == 0x202F || n == 0x205F ||
    n == 0x3000

/-- Every blank of the ASCII class is a blank. -/
theorem isBlank_of_isWhitespace {c : Char} (h : c.isWhitespace = true) : isBlank c = true := by
  simp only [Char.isWhitespace, Bool.or_eq_true, decide_eq_true_eq] at h
  rcases h with ((rfl | rfl) | rfl) | rfl <;> decide

/-- Blanks removed from the front of a list of characters. -/
def trimFront (cs : List Char) : List Char := cs.dropWhile isBlank

/-- Blanks removed from the back of a list of characters. -/
def trimBack (cs : List Char) : List Char := (cs.reverse.dropWhile isBlank).reverse

/-- A text without the blanks at its two ends. -/
def trim (s : String) : String := String.ofList (trimBack (trimFront s.toList))

@[simp] theorem toList_trim (s : String) : (trim s).toList = trimBack (trimFront s.toList) := by
  simp [trim]

end DeviceMessaging.Text
