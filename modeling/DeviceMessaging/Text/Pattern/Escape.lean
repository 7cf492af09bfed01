import DeviceMessaging.Text.Numeral
import DeviceMessaging.Text.Pattern.Basic
import DeviceMessaging.Text.Pattern.Switches

/-!
# `Text.Pattern.Escape` — single characters of a pattern

What follows a backslash stands for a character, for a class of characters or for an anchor.

## Contents
- `Pattern.Atom`, `Pattern.readEscape?`.
-/

namespace DeviceMessaging.Text.Pattern

/-! ## Characters -/

/-- One character of a pattern, or what stands for it. -/
inductive Atom where
  | literal (c : Char)
  /-- A named class of characters. -/
  | named (set : List Nat)
  | anchor (a : Anchor)

/-- The characters that have a meaning in patterns. -/
def isMeta (c : Char) : Bool := "\\.+*?()|[]\x7b\x7d^$#&-~".toList.contains c

/-- The characters that may be escaped although they have no meaning. -/
def isEscapable (c : Char) : Bool :=
  isMeta c || (c.toNat < 0x80 && !c.isAlphanum && c != '<' && c != '>')

/-- The ASCII characters in the classes that escapes name. -/
def escapeClass? : Char → Option (List Nat)
  | 'd' => some (changesOfRanges [(0x30, 0x39)])
  | 's' => some (changesOfRanges [(0x09, 0x0D), (0x20, 0x20)])
  | 'w' => some (changesOfRanges [(0x30, 0x39), (0x41, 0x5A), (0x5F, 0x5F), (0x61, 0x7A)])
  | _ => none

/-- The number that hexadecimal digits write, as many as `width`, after those of the number `n`. -/
def readDigits? (s : Switches) : Nat → Nat → List Char → Option (Nat × List Char)
  | 0, n, cs => some (n, cs)
  | width + 1, n, cs =>
    match skip s cs with
    | [] => none
    | c :: cs => (digit? 16 c).bind fun d => readDigits? s width (16 * n + d) cs

/-- The character whose code is written with `width` hexadecimal digits. -/
def readCode? (s : Switches) (width : Nat) (cs : List Char) : Option (Atom × List Char) := do
  let (n, cs) ← readDigits? s width 0 cs
  if n.isValidChar ∧ (s.wide ∨ 2 < width ∨ n < 0x80) then some (.literal (Char.ofNat n), cs) else none

/-- A class that an escape names. There is none of all scripts, and none of bytes beyond ASCII. -/
def readNamed? (s : Switches) (c : Char) : Option Atom :=
  if s.wide then none else (escapeClass? c).map .named

/-- An anchor at words. There is none for words of all scripts. -/
def readWordAnchor? (s : Switches) (a : Anchor) (cs : List Char) : Option (Atom × List Char) :=
  if s.wide then none else some (.anchor a, cs)

/-- Reads what follows a backslash. -/
def readEscape? (s : Switches) : List Char → Option (Atom × List Char)
  | [] => none
  | c :: cs =>
    let literal (n : Nat) := some (Atom.literal (Char.ofNat n), cs)
    match c with
    | 'x' => readCode? s 2 cs
    | 'u' => readCode? s 4 cs
    | 'U' => readCode? s 8 cs
    | 'a' => literal 0x07
    | 't' => literal 0x09
    | 'n' => literal 0x0A
    | 'v' => literal 0x0B
    | 'f' => literal 0x0C
    | 'r' => literal 0x0D
    | 'A' => some (.anchor .textStart, cs)
    | 'z' => some (.anchor .textEnd, cs)
    | 'b' => readWordAnchor? s (.wordEdge false) cs
    | 'B' => readWordAnchor? s (.wordEdge true) cs
    | '<' => readWordAnchor? s .wordStart cs
    | '>' => readWordAnchor? s .wordEnd cs
    | c => if isEscapable c then some (.literal c, cs) else (readNamed? s c).map (·, cs)

end DeviceMessaging.Text.Pattern
