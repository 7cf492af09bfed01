import DeviceMessaging.Text.Fold

/-!
# `Text.Number` — texts that write numbers of any size and precision

A number has digits with or without a point among them, a sign in front or none, and an exponent or none.
Infinity and the value that is no number have names.

## Contents
- `isNumber`.
-/

namespace DeviceMessaging.Text

/-- What follows a sign, or the whole if there is none. -/
def afterSign : List Char → List Char
  | '+' :: cs => cs
  | '-' :: cs => cs
  | cs => cs

/-- One or more digits. -/
def isDigits (cs : List Char) : Bool := cs ≠ [] && cs.all Char.isDigit

/-- Nothing, or an exponent. -/
def isExponent : List Char → Bool
  | [] => true
  | c :: cs => (c == 'e' || c == 'E') && isDigits (afterSign cs)

/-- Digits with a point before, among or after them or none, and an exponent or none. -/
def isUnsignedNumber (cs : List Char) : Bool :=
  let whole := cs.takeWhile Char.isDigit
  match cs.dropWhile Char.isDigit with
  | '.' :: rest =>
    let fraction := rest.takeWhile Char.isDigit
    (whole ≠ [] || fraction ≠ []) && isExponent (rest.dropWhile Char.isDigit)
  | rest => whole ≠ [] && isExponent rest

/-- Whether a text writes a number. -/
def isNumber (cs : List Char) : Bool :=
  let cs := afterSign cs
  isUnsignedNumber cs ||
    ["inf", "infinity", "nan"].any fun name => sameLetters cs name.toList

end DeviceMessaging.Text
