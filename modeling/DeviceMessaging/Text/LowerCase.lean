import DeviceMessaging.Text.LetterCase

/-!
# `Text.LowerCase` — lower-casing a text

Two letters do not follow the simple mapping: a capital I with dot becomes two code points, and a
capital sigma becomes the final form at the end of a word.

## Contents
- `endsWord`: a capital sigma stands at the end of a word.
- `lowerCase`.
-/

namespace DeviceMessaging.Text

/-- The first character that is not passed over is a cased letter. -/
def meetsCased (cs : List Char) : Bool :=
  match cs.dropWhile isCaseIgnorable with
  | [] => false
  | c :: _ => isCased c

/-- A letter between `before` (nearest first) and `after` ends a word. -/
def endsWord (before after : List Char) : Bool := meetsCased before && !meetsCased after

/-- Lower-cases the second list, given the characters before it, nearest first. -/
def lowerChars (before : List Char) : List Char → List Char
  | [] => []
  | c :: cs =>
    let here :=
      if c = 'Σ' then [if endsWord before cs then 'ς' else 'σ']
      else if c = 'İ' then ['i', '\u0307']
      else [lowerPartner c]
    here ++ lowerChars (c :: before) cs

/-- A text in lower case. -/
def lowerCase (s : String) : String := String.ofList (lowerChars [] s.toList)

end DeviceMessaging.Text
