import DeviceMessaging.Text.Alphanumeric
import DeviceMessaging.Text.Pattern.Class

/-!
# `Text.Pattern.Reader` — the notation of patterns

The notation is that of regular expressions: `.`, classes in brackets, groups, `|`, `*`, `+` and `?`,
anchors, escapes with a backslash, and switches such as `(?s)`. Classes by Unicode property, and
comparison without regard to case beyond ASCII, are not available; numbers of repetitions are not either,
for no text that is read here holds a closing brace.

## Contents
- `Pattern.readOne?`: one character, escape or class.
- `Pattern.Groups`, `Pattern.readGroupHead?`: the beginnings of groups.
- `Pattern.Part`: what was read, and how deep it is nested.
- `Pattern.parse?`: whole patterns.
-/

namespace DeviceMessaging.Text.Pattern

/-! ## Single characters -/

/-- The pattern of the point. -/
def point? (s : Switches) : Option Pattern :=
  if !s.wide then none
  else if s.wholeText then some (ofSet true (negation []))
  else if s.crlf then some (ofSet true (negation (changesOfRanges [(0x0A, 0x0A), (0x0D, 0x0D)])))
  else some (ofSet true (negation (single '\n')))

/-- The pattern of a character. Comparison without regard to case is for bytes only. -/
def character? (s : Switches) (c : Char) : Option Pattern :=
  if !s.anyCase then some (literal [c])
  else if s.wide then none
  else some (ofSet false (bothCases (single c)))

/-- The pattern of an atom. -/
def ofAtom? (s : Switches) : Atom → Option Pattern
  | .literal c => character? s c
  | .named set => some (ofSet false set)
  | .anchor a => some (anchor a)

/-! ## Parts -/

/-- A part of a pattern. -/
structure Part where
  /-- What it matches; `none` for a part that only sets switches. -/
  pattern? : Option Pattern
  /-- How deep groups, classes, repetitions, sequences and alternatives are nested in it. -/
  depth : Nat := 0

/-- How deep the members of a sequence, or alternatives, are nested together. -/
def jointDepth (parts : List Part) : Nat :=
  let deepest := (parts.map Part.depth).foldl max 0
  if 1 < parts.length then deepest + 1 else deepest

/-- Parts one after the other. -/
def Part.inSequence (parts : List Part) : Part :=
  ⟨some (sequence (parts.filterMap Part.pattern?)), jointDepth parts⟩

/-- Parts as alternatives. -/
def Part.asAlternatives (parts : List Part) : Part :=
  ⟨some (alternatives (parts.filterMap Part.pattern?)), jointDepth parts⟩

/-- Reads one character of a pattern, an escape or a class. -/
def readOne? (s : Switches) : List Char → Option (Part × List Char)
  | [] => none
  | '.' :: cs => (point? s).map fun p => (⟨some p, 0⟩, cs)
  | '^' :: cs => some (⟨some (anchor (if s.lines then .lineStart s.crlf else .textStart)), 0⟩, cs)
  | '$' :: cs => some (⟨some (anchor (if s.lines then .lineEnd s.crlf else .textEnd)), 0⟩, cs)
  | '\x7b' :: _ => none
  | '[' :: cs => do
    let (c, rest) ← readBracketed? s cs
    some (⟨some (ofSet s.wide c.set), c.depth⟩, rest)
  | '\\' :: cs => do
    let (a, cs) ← readEscape? s cs
    (ofAtom? s a).map fun p => (⟨some p, 0⟩, cs)
  | c :: cs => (character? s c).map fun p => (⟨some p, 0⟩, cs)

/-- The repetition that an operator stands for. -/
def repeat? (c : Char) : Option Repeat :=
  if c = '*' then some .star
  else if c = '+' then some .plus
  else if c = '?' then some .optional
  else none

/-- A part repeated. What only sets switches is not. -/
def Part.repeated? (r : Repeat) (greedy : Bool) (part : Part) : Option Part :=
  part.pattern?.map fun p => ⟨some (r.apply greedy p), part.depth + 1⟩

/-! ## Groups -/

/-- Whether a character begins the name of a group, or goes on with it. -/
def inGroupName (first : Bool) (c : Char) : Bool :=
  if first then c == '_' || isAlphabetic c else "_.[]".toList.contains c || isAlphanumeric c

/-- The groups that were read: how many, and the names of those that have one. -/
structure Groups where
  count : Nat := 0
  names : List (List Char) := []

/-- How a group begins. -/
inductive GroupHead where
  /-- It only sets switches, for what follows in the group around it. -/
  | switches (s : Switches)
  /-- It holds a pattern, and has a number or not. -/
  | inner (s : Switches) (groups : Groups) (number? : Option Nat)

/-- A group with a number. -/
def numbered (s : Switches) (groups : Groups) (names : List (List Char)) : GroupHead :=
  .inner s ⟨groups.count + 1, names⟩ (some (groups.count + 1))

/-- Reads the name of a group up to its end. No two groups have one name. -/
def readGroupName? (s : Switches) (groups : Groups) (cs : List Char) :
    Option (GroupHead × List Char) :=
  let name := cs.takeWhile (· != '>')
  match cs.dropWhile (· != '>') with
  | '>' :: rest =>
    if name.head?.any (inGroupName true) && name.tail.all (inGroupName false) &&
        !groups.names.contains name
    then some (numbered s groups (name :: groups.names), rest)
    else none
  | _ => none

/-- Reads the beginning of a group after its parenthesis. -/
def readGroupHead? (s : Switches) (groups : Groups) :
    List Char → Option (GroupHead × List Char)
  | '?' :: 'P' :: '<' :: cs => readGroupName? s groups cs
  | '?' :: '<' :: cs => readGroupName? s groups cs
  | '?' :: cs => do
    match ← readSwitches? s [] cs with
    | (s', ')' :: rest) => if cs.head? = some ')' then none else some (.switches s', rest)
    | (s', _ :: rest) => some (.inner s' groups none, rest)
    | (_, []) => none
  | cs => some (numbered s groups groups.names, cs)

/-- The pattern in a group. -/
def Part.inGroup (number? : Option Nat) (part : Part) : Part :=
  match number? with
  | some n => ⟨part.pattern?.map (group n), part.depth + 1⟩
  | none => { part with depth := part.depth + 1 }

/-! ## Patterns -/

mutual

/-- Reads alternatives up to the end of their group; `before` are those so far, the last one first. -/
def readAlternatives? : Nat → Switches → Groups → List Part → List Char →
    Option (Part × Groups × List Char)
  | 0, _, _, _, _ => none
  | fuel + 1, s, groups, before, cs => do
    let (part, s, groups, rest) ← readSequence? fuel s groups [] cs
    match rest with
    | '|' :: rest => readAlternatives? fuel s groups (part :: before) rest
    | rest => some (.asAlternatives (part :: before).reverse, groups, rest)

/-- Reads one alternative; `before` are its parts so far, the last one first. -/
def readSequence? : Nat → Switches → Groups → List Part → List Char →
    Option (Part × Switches × Groups × List Char)
  | 0, _, _, _, _ => none
  | fuel + 1, s, groups, before, cs =>
    match skip s cs with
    | [] => some (.inSequence before.reverse, s, groups, [])
    | c :: cs =>
      if c = '|' ∨ c = ')' then some (.inSequence before.reverse, s, groups, c :: cs)
      else if c = '(' then do
        match ← readGroupHead? s groups (skip s cs) with
        | (.switches s', cs) => readSequence? fuel s' groups (⟨none, 0⟩ :: before) cs
        | (.inner s' groups number?, cs) =>
          let (part, groups, rest) ← readAlternatives? fuel s' groups [] cs
          match rest with
          | ')' :: rest => readSequence? fuel s groups (part.inGroup number? :: before) rest
          | _ => none
      else
        match repeat? c with
        | some r => do
          let lazy := cs.head? == some '?'
          let part ← (← before.head?).repeated? r (lazy == s.swapped)
          readSequence? fuel s groups (part :: before.tail) (if lazy then cs.tail else cs)
        | none => do
          let (part, cs) ← readOne? s (c :: cs)
          readSequence? fuel s groups (part :: before) cs

end

/-- How deep the parts of a pattern may be nested. -/
def deepestNesting : Nat := 250

/-- Reads a pattern. -/
def parse? (text : List Char) : Option Pattern :=
  match readAlternatives? (3 * text.length + 3) {} {} [] text with
  | some (part, _, []) => if part.depth ≤ deepestNesting then part.pattern? else none
  | _ => none

end DeviceMessaging.Text.Pattern
