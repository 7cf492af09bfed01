import DeviceMessaging.Text.Pattern.Escape

/-!
# `Text.Pattern.Class` — classes in brackets

A class holds characters, ranges, named classes and classes in brackets of their own, and operators
between them. A class of bytes holds ASCII only, so that none of them is negated.

## Contents
- `Pattern.readAsciiClass?`: named classes.
- `Pattern.negation`, `Pattern.inCase`: what is done to sets.
- `Pattern.Items`, `Pattern.Operand`: what was read of a class.
- `Pattern.readBracketed?`: whole classes.
-/

namespace DeviceMessaging.Text.Pattern

/-! ## Sets -/

/-- The characters that are not in a set. Surrogates are no characters; where they are all that is missing
between two of the set, these two count as missing too. -/
def negation (set : List Nat) : List Nat :=
  let rest := complement set
  let below := isInside set 0xD7FF
  let above := isInside set 0xE000
  if below && above && !isInside set 0xD800 then union rest (changesOfRange 0xD7FF 0xE000)
  else if below != above then combine (fun a b => a && !b) rest (changesOfRange 0xD800 0xDFFF)
  else rest

/-- A set as it is, or what is not in it. Nothing is negated without code points. -/
def negated? (s : Switches) (negated : Bool) (set : List Nat) : Option (List Nat) :=
  if !negated then some set else if s.wide then some (negation set) else none

/-- The same letters in either case. -/
def bothCases (set : List Nat) : List Nat :=
  let letters := (List.range 26).map fun n => (n + 0x41, n + 0x61)
  letters.foldl (fun acc l =>
    if isInside set l.1 || isInside set l.2 then union acc (changesOfRanges [(l.1, l.1), (l.2, l.2)])
    else acc) set

/-- A set as the switches want it. -/
def inCase (s : Switches) (set : List Nat) : List Nat := if s.anyCase then bothCases set else set

/-! ## Named classes -/

/-- The ASCII classes that have names. -/
def asciiClasses : List (String × List (Nat × Nat)) := [
  ("alnum", [(0x30, 0x39), (0x41, 0x5A), (0x61, 0x7A)]), ("alpha", [(0x41, 0x5A), (0x61, 0x7A)]),
  ("ascii", [(0x00, 0x7F)]), ("blank", [(0x09, 0x09), (0x20, 0x20)]),
  ("cntrl", [(0x00, 0x1F), (0x7F, 0x7F)]), ("digit", [(0x30, 0x39)]), ("graph", [(0x21, 0x7E)]),
  ("lower", [(0x61, 0x7A)]), ("print", [(0x20, 0x7E)]),
  ("punct", [(0x21, 0x2F), (0x3A, 0x40), (0x5B, 0x60), (0x7B, 0x7E)]),
  ("space", [(0x09, 0x0D), (0x20, 0x20)]), ("upper", [(0x41, 0x5A)]),
  ("word", [(0x30, 0x39), (0x41, 0x5A), (0x5F, 0x5F), (0x61, 0x7A)]),
  ("xdigit", [(0x30, 0x39), (0x41, 0x46), (0x61, 0x66)])]

/-- Reads a named ASCII class after its bracket: `:name:]`, or with `^` before the name all else. -/
def readAsciiClass? : List Char → Option (Bool × List Nat × List Char)
  | ':' :: cs => do
    let (negated, cs) := match cs with
      | '^' :: cs => (true, cs)
      | cs => (false, cs)
    let ranges ← asciiClasses.lookup (String.ofList (cs.takeWhile (· != ':')))
    match cs.dropWhile (· != ':') with
    | ':' :: ']' :: rest => some (negated, changesOfRanges ranges, rest)
    | _ => none
  | _ => none

/-! ## Operators -/

/-- The operators between the parts of a class. -/
def classOperator? (c : Char) : Option (Bool → Bool → Bool) :=
  if c = '&' then some (· && ·)
  else if c = '-' then some fun a b => a && !b
  else if c = '~' then some (· != ·)
  else none

/-- The items of a class up to an operator or the end. -/
structure Items where
  set : List Nat := []
  count : Nat := 0
  /-- How deep classes are nested in them. -/
  depth : Nat := 0

/-- Adds an item. -/
def Items.push (items : Items) (set : List Nat) (depth : Nat) : Items :=
  ⟨union items.set set, items.count + 1, max items.depth depth⟩

/-- Adds an item that is no class in brackets. Comparison without regard to case is for bytes only. -/
def Items.pushChars? (s : Switches) (items : Items) (set : List Nat) : Option Items :=
  if s.wide ∧ s.anyCase then none else some (items.push set 0)

/-- A side of an operator: its set, and how deep classes and operators are nested in it. -/
structure Operand where
  set : List Nat
  depth : Nat

/-- All items together. -/
def Items.operand (s : Switches) (items : Items) : Operand :=
  ⟨inCase s items.set, if 1 < items.count then items.depth + 1 else items.depth⟩

/-- The left side of an operator, if the class has had one. -/
abbrev Waiting := Option ((Bool → Bool → Bool) × Operand)

/-- What the operator before some items, if there is one, makes of both sides. -/
def Waiting.apply (s : Switches) (w : Waiting) (items : Items) : Operand :=
  let right := items.operand s
  match w with
  | none => right
  | some (op, left) => ⟨combine op left.set right.set, max left.depth right.depth + 1⟩

/-! ## Items -/

/-- The character of an atom in a class, as a range can begin and end with it. -/
def literal? (s : Switches) : Atom → Option Char
  | .literal c => if s.wide || c.toNat < 0x80 then some c else none
  | _ => none

/-- Reads one character of a class. -/
def readClassAtom? (s : Switches) (cs : List Char) : Option (Atom × List Char) :=
  match skip s cs with
  | [] => none
  | '\\' :: cs => readEscape? s cs
  | c :: cs => some (.literal c, cs)

/-- The set that an atom stands for in a class. -/
def classAtomSet? (s : Switches) : Atom → Option (List Nat)
  | .named set => some set
  | a => (literal? s a).map single

/-- The character after a hyphen that decides whether the hyphen makes a range. In a spaced pattern blanks
are passed over, and so is the first `#` among them, but no more of a comment. -/
def afterHyphen? (s : Switches) (cs : List Char) : Option Char :=
  if !s.spaced then cs.head?
  else
    match cs.dropWhile isBlank with
    | '#' :: cs => (cs.dropWhile isBlank).head?
    | cs => cs.head?

/-- Reads a character of a class, or a range of them. -/
def readClassItem? (s : Switches) (cs : List Char) : Option (List Nat × List Char) := do
  let (first, cs) ← readClassAtom? s cs
  match skip s cs with
  | '-' :: rest =>
    let next := afterHyphen? s rest
    if next = some ']' ∨ next = some '-' then some (← classAtomSet? s first, '-' :: rest)
    else
      let (last, rest) ← readClassAtom? s rest
      let a ← literal? s first
      let b ← literal? s last
      if a ≤ b then some (changesOfRange a.toNat b.toNat, rest) else none
  | rest => some (← classAtomSet? s first, rest)

/-! ## Classes -/

/-- Reads the hyphens at the beginning of a class, as items. -/
def readHyphens? (s : Switches) (comment : Bool) (items : Items) : List Char → Option (Items × List Char)
  | [] => none
  | c :: cs =>
    if comment then readHyphens? s (c != '\n') items cs
    else if s.spaced && isBlank c then readHyphens? s false items cs
    else if s.spaced && c == '#' then readHyphens? s true items cs
    else if c = '-' then do readHyphens? s false (← items.pushChars? s (single '-')) cs
    else some (items, c :: cs)

/-- Reads the beginning of a class after its bracket: whether it is negated, and the characters that have
no meaning there, hyphens or one closing bracket. -/
def readClassHead? (s : Switches) (cs : List Char) : Option (Bool × Items × List Char) := do
  let (negated, cs) := match skip s cs with
    | '^' :: cs => (true, cs)
    | cs => (false, cs)
  let (items, cs) ← readHyphens? s false {} cs
  match cs with
  | ']' :: rest =>
    if items.count = 0 then some (negated, ← items.pushChars? s (single ']'), rest)
    else some (negated, items, cs)
  | cs => some (negated, items, cs)

/-- Reads a class up to its closing bracket. -/
def readClass? (s : Switches) : Nat → Bool → Waiting → Items → List Char →
    Option (Operand × List Char)
  | 0, _, _, _, _ => none
  | fuel + 1, negated, waiting, items, cs =>
    match skip s cs with
    | [] => none
    | ']' :: cs => do
      let all := waiting.apply s items
      some (⟨← negated? s negated all.set, all.depth + 1⟩, cs)
    | '[' :: cs =>
      match readAsciiClass? cs with
      | some (inverse, set, cs) => do
        let set ← negated? s inverse (inCase s set)
        readClass? s fuel negated waiting (← items.pushChars? s set) cs
      | none => do
        let (innerNegated, innerItems, cs) ← readClassHead? s cs
        let (inner, cs) ← readClass? s fuel innerNegated none innerItems cs
        readClass? s fuel negated waiting (items.push inner.set inner.depth) cs
    | c :: d :: cs =>
      match if c = d then classOperator? c else none with
      | some op => readClass? s fuel negated (some (op, waiting.apply s items)) {} cs
      | none => do
        let (set, cs) ← readClassItem? s (c :: d :: cs)
        readClass? s fuel negated waiting (← items.pushChars? s set) cs
    | [_] => none

/-- Reads a class after its bracket. -/
def readBracketed? (s : Switches) (cs : List Char) : Option (Operand × List Char) := do
  let (negated, items, rest) ← readClassHead? s cs
  readClass? s (cs.length + 1) negated none items rest

end DeviceMessaging.Text.Pattern
