/-!
# `Text.CodePoints` — sets of code points as lists of change points

A set of code points is given by the increasing list of the points where membership changes: the first
entry is the first member, the second the first code point after it that is no member, and so on.

## Contents
- `isInside`, `inChanges`: membership.
- `changesOfRange`, `single`, `changesOfRanges`, `complement` with `isInside_complement`, `combine`,
  `union`: building sets.
-/

namespace DeviceMessaging.Text

/-! ## Membership -/

/-- Whether the code point `n` is a member of the set that `changes` describes. -/
def isInside (changes : List Nat) (n : Nat) : Bool :=
  (changes.takeWhile (· ≤ n)).length % 2 == 1

/-- Whether `c` is a member of the set that `changes` describes. -/
def inChanges (changes : List Nat) (c : Char) : Bool := isInside changes c.toNat

/-! ## Building sets -/

/-- The code points from `first` to `last`. -/
def changesOfRange (first last : Nat) : List Nat :=
  if first ≤ last then [first, last + 1] else []

/-- The set of one character. -/
def single (c : Char) : List Nat := changesOfRange c.toNat c.toNat

/-- The number of code points. -/
def codePointCount : Nat := 0x110000

/-- A change of membership at the first code point taken back, or made. -/
def flipFirst : List Nat → List Nat
  | 0 :: changes => changes
  | changes => 0 :: changes

/-- A change of membership after the last code point taken back, or made. -/
def flipLast (changes : List Nat) : List Nat :=
  if changes.getLast? = some codePointCount then changes.dropLast else changes ++ [codePointCount]

/-- All code points that are not in a set. -/
def complement (changes : List Nat) : List Nat := flipLast (flipFirst changes)

theorem isInside_flipFirst (changes : List Nat) (n : Nat) :
    isInside (flipFirst changes) n = !isInside changes n := by
  have flip (k : Nat) : ((k + 1) % 2 == 1) = !(k % 2 == 1) := by
    rcases Nat.mod_two_eq_zero_or_one k with h | h <;> simp [Nat.add_mod, h]
  match changes with
  | [] => simp [flipFirst, isInside]
  | 0 :: cs => simp [flipFirst, isInside, flip]
  | (m + 1) :: cs =>
    rw [flipFirst, isInside, isInside, List.takeWhile_cons_of_pos (by simp), List.length_cons, flip]
    simp

theorem isInside_append_of_lt (changes : List Nat) {m n : Nat} (h : n < m) :
    isInside (changes ++ [m]) n = isInside changes n := by
  have count : ((changes ++ [m]).takeWhile (· ≤ n)) = changes.takeWhile (· ≤ n) := by
    induction changes with
    | nil => simp [Nat.not_le.2 h]
    | cons c cs ih => by_cases hc : c ≤ n <;> simp [hc, ih]
  rw [isInside, isInside, count]

theorem isInside_flipLast (changes : List Nat) {n : Nat} (h : n < codePointCount) :
    isInside (flipLast changes) n = isInside changes n := by
  rw [flipLast]
  split
  next last =>
    obtain ⟨init, rfl⟩ := List.getLast?_eq_some_iff.1 last
    rw [List.dropLast_concat, isInside_append_of_lt init h]
  next => exact isInside_append_of_lt changes h

theorem isInside_complement (changes : List Nat) {n : Nat} (h : n < codePointCount) :
    isInside (complement changes) n = !isInside changes n := by
  rw [complement, isInside_flipLast _ h, isInside_flipFirst]

/-- The points at which a combination of two sets changes, from some point on: `p` and `q` tell whether
there one is inside of either set, and the lists where that changes. -/
def combineFrom (op : Bool → Bool → Bool) (p q : Bool) : List Nat → List Nat → List Nat
  | [], [] => []
  | a :: as, [] => point a (op (!p) q) (combineFrom op (!p) q as [])
  | [], b :: bs => point b (op p (!q)) (combineFrom op p (!q) [] bs)
  | a :: as, b :: bs =>
    if a < b then point a (op (!p) q) (combineFrom op (!p) q as (b :: bs))
    else if b < a then point b (op p (!q)) (combineFrom op p (!q) (a :: as) bs)
    else point a (op (!p) (!q)) (combineFrom op (!p) (!q) as bs)
termination_by as bs => as.length + bs.length
where
  /-- A point belongs to the changes if the combination is not the same behind it. -/
  point (n : Nat) (behind : Bool) (rest : List Nat) : List Nat :=
    if behind = op p q then rest else n :: rest

/-- The set of the code points whose memberships in two sets `op` accepts. No code point that is in
neither set is accepted. -/
def combine (op : Bool → Bool → Bool) (a b : List Nat) : List Nat := combineFrom op false false a b

/-- The union of two sets. -/
def union (a b : List Nat) : List Nat := combine (· || ·) a b

/-- The code points of several ranges. -/
def changesOfRanges (ranges : List (Nat × Nat)) : List Nat :=
  ranges.foldl (fun set r => union set (changesOfRange r.1 r.2)) []

end DeviceMessaging.Text
