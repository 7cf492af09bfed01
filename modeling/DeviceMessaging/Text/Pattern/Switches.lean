import DeviceMessaging.Text.Blank

/-!
# `Text.Pattern.Switches` — how a pattern is written

Switches say how the parts of a pattern are to be taken. One of them is for the writing alone: in a spaced
pattern blanks and comments have no meaning.

## Contents
- `Pattern.Switches`, `Pattern.readSwitches?`.
- `Pattern.skip`: what has no meaning in a spaced pattern.
-/

namespace DeviceMessaging.Text.Pattern

/-! ## Switches -/

/-- How the parts of a pattern are to be taken. -/
structure Switches where
  /-- Letters match in either case (`i`). -/
  anyCase : Bool := false
  /-- The anchors of the text hold at every line (`m`). -/
  lines : Bool := false
  /-- The point matches the end of a line too (`s`). -/
  wholeText : Bool := false
  /-- Greedy and not greedy are exchanged (`U`). -/
  swapped : Bool := false
  /-- Characters are code points, not bytes (`u`). -/
  wide : Bool := true
  /-- A carriage return ends lines too (`R`). -/
  crlf : Bool := false
  /-- Blanks and comments in the pattern are passed over (`x`). -/
  spaced : Bool := false
  deriving DecidableEq

/-- Sets the switch that a letter names. -/
def Switches.set? (s : Switches) (value : Bool) : Char → Option Switches
  | 'i' => some { s with anyCase := value }
  | 'm' => some { s with lines := value }
  | 's' => some { s with wholeText := value }
  | 'U' => some { s with swapped := value }
  | 'u' => some { s with wide := value }
  | 'R' => some { s with crlf := value }
  | 'x' => some { s with spaced := value }
  | _ => none

/-- Reads the letters of a switch group up to the colon or the parenthesis that ends it. Each letter, and
the minus sign after which switches are turned off, stands there once at most, and a letter comes last. -/
def readSwitches? (s : Switches) (seen : List Char) : List Char → Option (Switches × List Char)
  | [] => none
  | c :: cs =>
    if c = ':' ∨ c = ')' then if seen.head? = some '-' then none else some (s, c :: cs)
    else if c ∈ seen then none
    else if c = '-' then readSwitches? s (c :: seen) cs
    else (s.set? (!seen.contains '-') c).bind fun s => readSwitches? s (c :: seen) cs

/-! ## Blanks and comments -/

/-- What is left of a pattern after blanks, and comments from `#` to the end of a line, if the pattern is
spaced. -/
def skip (s : Switches) (cs : List Char) : List Char :=
  if s.spaced then go false cs else cs
where
  go (comment : Bool) : List Char → List Char
    | [] => []
    | c :: cs =>
      if comment then go (c != '\n') cs
      else if isBlank c then go false cs
      else if c = '#' then go true cs
      else c :: cs

end DeviceMessaging.Text.Pattern
