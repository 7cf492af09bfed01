import DeviceMessaging.Text.Printable

/-!
# `Text.Quoted` — a text in double quotes, with escapes

Quotes, backslashes and control characters are written as escapes, so that an error text that shows a
value shows where it begins and ends.

## Contents
- `escapeChar`: how one character is written.
- `quoted`: a whole text in quotes.
-/

namespace DeviceMessaging.Text

/-- One character as it is written between quotes. -/
def escapeChar (c : Char) : List Char :=
  if c = '\x00' then ['\\', '0']
  else if c = '\t' then ['\\', 't']
  else if c = '\r' then ['\\', 'r']
  else if c = '\n' then ['\\', 'n']
  else if c = '\\' then ['\\', '\\']
  else if c = '"' then ['\\', '"']
  else if isPrintable c then [c]
  else ['\\', 'u', '\x7b'] ++ Nat.toDigits 16 c.toNat ++ ['\x7d']

/-- A text between double quotes. -/
def quoted (s : String) : String := "\"" ++ String.ofList (s.toList.flatMap escapeChar) ++ "\""

end DeviceMessaging.Text
