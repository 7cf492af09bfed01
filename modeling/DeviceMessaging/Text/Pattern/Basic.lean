import DeviceMessaging.Text.CodePoints

/-!
# `Text.Pattern.Basic` — patterns of texts

A pattern describes texts, and where it can match in several ways it prefers some of them: of two
alternatives the first one, and more or fewer repetitions as it is greedy or not. Patterns are built in a
normal form, by `sequence`, `alternatives` and `Repeat.apply`. Which match is preferred depends on that
form: a beginning that all alternatives have in common is matched once for all of them.

## Contents
- `Anchor`, `Pattern`.
- `Pattern.shortest?`, `Pattern.longest?`: how many characters a pattern takes.
- `Pattern.ofSet`, `Pattern.sequence`, `Pattern.alternatives`, `Pattern.Repeat.apply`: patterns in normal
  form.
-/

namespace DeviceMessaging.Text

/-! ## Patterns -/

/-- A condition on the two sides of a position in a text. -/
inductive Anchor where
  | textStart
  | textEnd
  /-- The beginning of a line; `crlf` says that a carriage return ends lines too. -/
  | lineStart (crlf : Bool)
  | lineEnd (crlf : Bool)
  /-- A word of ASCII characters begins or ends, or neither (`negated`). -/
  | wordEdge (negated : Bool)
  | wordStart
  | wordEnd
  deriving DecidableEq

/-- An ASCII letter, digit or underscore. -/
def inWord (c : Char) : Bool := c.isAlphanum || c == '_'

/-- Whether an anchor holds between the characters `before` and `after`; `none` is the edge of the
text. -/
def Anchor.holds (before after : Option Char) : Anchor → Bool
  | textStart => before.isNone
  | textEnd => after.isNone
  | lineStart false => before.all (· == '\n')
  | lineEnd false => after.all (· == '\n')
  | lineStart true => before.all fun c => c == '\n' || (c == '\r' && after != some '\n')
  | lineEnd true => after.all fun c => c == '\r' || (c == '\n' && before != some '\r')
  | wordEdge negated => (before.any inWord != after.any inWord) != negated
  | wordStart => !before.any inWord && after.any inWord
  | wordEnd => before.any inWord && !after.any inWord

/-- A pattern of texts. -/
inductive Pattern where
  | empty
  /-- Certain characters, one after the other. -/
  | literal (cs : List Char)
  /-- One character out of a set of code points; `wide` tells whether it was written as such a set, or as
  one of bytes. -/
  | oneOf (wide : Bool) (set : List Nat)
  | anchor (a : Anchor)
  /-- Either `p` or nothing. -/
  | optional (greedy : Bool) (p : Pattern)
  /-- Any number of times `p`. -/
  | star (greedy : Bool) (p : Pattern)
  /-- At least once `p`. -/
  | plus (greedy : Bool) (p : Pattern)
  /-- A pattern in parentheses, the one of this number. No other one equals it. -/
  | group (number : Nat) (p : Pattern)
  | seq (p q : Pattern)
  | alt (p q : Pattern)
  deriving DecidableEq

namespace Pattern

/-! ## Lengths -/

/-- The fewest characters of a match, as far as can be told: `none` if nothing matches, or a part of the
pattern matches nothing. -/
def shortest? : Pattern → Option Nat
  | empty => some 0
  | literal cs => some cs.length
  | oneOf _ set => if set.isEmpty then none else some 1
  | anchor _ => some 0
  | optional _ p => p.shortest?.map fun _ => 0
  | star _ p => p.shortest?.map fun _ => 0
  | plus _ p => p.shortest?
  | group _ p => p.shortest?
  | seq p q => p.shortest?.bind fun m => q.shortest?.map (m + ·)
  | alt p q => p.shortest?.bind fun m => q.shortest?.map (min m)

/-- The most characters of a match, as far as can be told: `none` if there is no such number, or a part of
the pattern matches nothing. -/
def longest? : Pattern → Option Nat
  | empty => some 0
  | literal cs => some cs.length
  | oneOf _ set => if set.isEmpty then none else some 1
  | anchor _ => some 0
  | optional _ p => p.longest?
  | star _ _ => none
  | plus _ _ => none
  | group _ p => p.longest?
  | seq p q => p.longest?.bind fun m => q.longest?.map (m + ·)
  | alt p q => p.longest?.bind fun m => q.longest?.map (max m)

/-- Whether every match takes a character. -/
def isSolid (p : Pattern) : Bool := p.shortest?.any (0 < ·)

/-- Whether no match takes a character. -/
def isHollow (p : Pattern) : Bool := p.longest? == some 0

/-! ## Characters -/

/-- A pattern for one character of a set. -/
def ofSet (wide : Bool) (set : List Nat) : Pattern :=
  match set with
  | [] => oneOf false []
  | [first, next] =>
    if next = first + 1 then literal [Char.ofNat first] else oneOf wide [first, next]
  | set => oneOf wide set

/-! ## Sequences -/

/-- The patterns that a pattern has one after the other. -/
def parts : Pattern → List Pattern
  | empty => []
  | seq p q => p.parts ++ q.parts
  | p => [p]

/-- Puts a pattern in front of others, to the characters there if it is made of characters. -/
def glue : Pattern → List Pattern → List Pattern
  | literal cs, literal ds :: ps => literal (cs ++ ds) :: ps
  | p, ps => p :: ps

/-- Patterns in a chain. -/
def chain : List Pattern → Pattern
  | [] => empty
  | [p] => p
  | p :: ps => seq p (chain ps)

/-- Patterns one after the other. -/
def sequence (ps : List Pattern) : Pattern := chain ((ps.flatMap parts).foldr glue [])

/-! ## Alternatives -/

/-- The alternatives of a pattern. -/
def branches : Pattern → List Pattern
  | alt p q => p.branches ++ q.branches
  | p => [p]

/-- Alternatives in a chain. -/
def fork : List Pattern → Pattern
  | [] => oneOf false []
  | [p] => p
  | p :: ps => alt p (fork ps)

/-- The set that a pattern for a single given character stands for. -/
def charSet? : Pattern → Option (List Nat)
  | literal [c] => some (single c)
  | _ => none

/-- The set that a pattern for one character out of several stands for. -/
def choiceSet? : Pattern → Option (List Nat)
  | oneOf _ set => some set
  | _ => none

/-- The set that all of several patterns together stand for, if each of them stands for one. -/
def unionOf? (set? : Pattern → Option (List Nat)) (ps : List Pattern) : Option (List Nat) :=
  (ps.mapM set?).map fun sets => sets.foldl union []

/-- Alternatives. Where all are given characters, or all are sets of characters, they make one set. -/
def either (ps : List Pattern) : Pattern :=
  match ps.flatMap branches with
  | [p] => p
  | ps =>
    match unionOf? charSet? ps <|> unionOf? choiceSet? ps with
    | some set => ofSet true set
    | none => fork ps

/-- The parts that two sequences begin with. -/
def commonParts : List Pattern → List Pattern → List Pattern
  | p :: ps, q :: qs => if p = q then p :: commonParts ps qs else []
  | _, _ => []

/-- Whether a pattern is a sequence. -/
def isSequence : Pattern → Bool
  | seq _ _ => true
  | _ => false

/-- The parts that all of several sequences begin with, if they are sequences. -/
def sharedParts : List Pattern → List Pattern
  | [] => []
  | p :: ps =>
    if (p :: ps).all isSequence then ps.foldl (fun shared q => commonParts shared q.parts) p.parts
    else []

/-- Alternatives, of which the parts that all begin with come first and once. -/
def alternatives (ps : List Pattern) : Pattern :=
  match either ps with
  | alt p q =>
    let ps := (alt p q).branches
    match sharedParts ps with
    | [] => fork ps
    | shared => sequence (shared ++ [either (ps.map fun p => sequence (p.parts.drop shared.length))])
  | p => p

/-! ## Repetitions -/

/-- How often a pattern is to match. -/
inductive Repeat where
  | optional
  | star
  | plus
  deriving DecidableEq

/-- The repetition of a pattern. One that takes no character matches once at most. -/
def Repeat.apply (r : Repeat) (greedy : Bool) (p : Pattern) : Pattern :=
  match r with
  | .optional => .optional greedy p
  | .star => if p.isHollow then .optional greedy p else .star greedy p
  | .plus => if p.isHollow then p else .plus greedy p

end Pattern

end DeviceMessaging.Text
