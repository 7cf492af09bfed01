/-!
# `Text.Numeral` — numbers of bounded size as text

Reading accepts one leading plus sign and any number of leading zeros, and refuses a value that does
not fit; writing gives the digits alone.

## Contents
- `digit?`, `value?`, `readBelow`: reading in base ten or sixteen.
- `decimal`, `hexadecimal`: writing.
- `valueFrom?_toDigits`: the digits of a number have that number as their value, in every base up to
  sixteen.
-/

namespace DeviceMessaging.Text

/-! ## Reading -/

/-- The value of a digit below `base`; letters of either case stand for ten and more. -/
def digit? (base : Nat) (c : Char) : Option Nat :=
  let n :=
    if '0' ≤ c ∧ c ≤ '9' then c.toNat - '0'.toNat
    else if 'a' ≤ c ∧ c ≤ 'f' then c.toNat - 'a'.toNat + 10
    else if 'A' ≤ c ∧ c ≤ 'F' then c.toNat - 'A'.toNat + 10
    else base
  if n < base then some n else none

/-- The value of the digits `cs` appended to a number `n`; `none` if one of them is no digit. -/
def valueFrom? (base : Nat) : Nat → List Char → Option Nat
  | n, [] => some n
  | n, c :: cs => (digit? base c).bind fun d => valueFrom? base (base * n + d) cs

/-- The value of a sequence of one or more digits. -/
def value? (base : Nat) (cs : List Char) : Option Nat :=
  if cs = [] then none else valueFrom? base 0 cs

/-- What follows a leading plus sign, or the whole if there is none. -/
def afterPlus : List Char → List Char
  | '+' :: cs => cs
  | cs => cs

/-- The number below `bound` that `cs` writes, with at most one plus sign in front. -/
def readBelow (base bound : Nat) (cs : List Char) : Option Nat :=
  (value? base (afterPlus cs)).filter (· < bound)

/-! ## Writing -/

/-- A number in decimal. -/
def decimal (n : Nat) : String := String.ofList (Nat.toDigits 10 n)

/-- A number in lower-case hexadecimal, filled up with zeros to `width` digits. -/
def hexadecimal (width n : Nat) : String :=
  let ds := Nat.toDigits 16 n
  String.ofList (List.replicate (width - ds.length) '0' ++ ds)

/-! ## Reading back -/

theorem digit?_digitChar {base d : Nat} (hd : d < base) (hb : base ≤ 16) :
    digit? base (Nat.digitChar d) = some d := by
  have all : ∀ b < 17, ∀ e < b, digit? b (Nat.digitChar e) = some e := by decide
  exact all base (by omega) d hd

theorem valueFrom?_append (base n : Nat) (cs ds : List Char) :
    valueFrom? base n (cs ++ ds) = (valueFrom? base n cs).bind fun m => valueFrom? base m ds := by
  induction cs generalizing n with
  | nil => rfl
  | cons c cs ih => cases h : digit? base c <;> simp [valueFrom?, h, ih]

/-- The digits of a number have that number as their value. -/
theorem valueFrom?_toDigits {base : Nat} (h1 : 1 < base) (hb : base ≤ 16) (n : Nat) :
    valueFrom? base 0 (Nat.toDigits base n) = some n := by
  induction n using Nat.strongRecOn with
  | ind n ih =>
      by_cases hn : n < base
      · simp [Nat.toDigits_of_lt_base hn, valueFrom?, digit?_digitChar hn hb]
      · have hle : base ≤ n := by omega
        have hlt : n / base < n := Nat.div_lt_self (by omega) h1
        have hmod : n % base < base := Nat.mod_lt _ (by omega)
        rw [Nat.toDigits_of_base_le h1 hle, valueFrom?_append, ih _ hlt]
        simp [valueFrom?, digit?_digitChar hmod hb, Nat.div_add_mod]

end DeviceMessaging.Text
