import DeviceMessaging.Text.Pattern.Basic

/-!
# `Text.Pattern.Machine` — matching a pattern

A pattern is matched by a machine with numbered places. While a text is read from left to right there is a
list of the places to go on at, the preferred ones first; each place is in it once, where it is first
reached. What comes after a match is given up.

## Contents
- `Step`, `Machine`, `Machine.of`: the machine of a pattern.
- `Machine.visit`, `Machine.closure`: the places that are reached without reading.
- `Search`, `Search.read`: how far a search has come.
- `Pattern.reachesEnd`: the preferred match in a text ends where the text ends.
-/

namespace DeviceMessaging.Text

/-! ## Machines -/

/-- What is done at one place of a machine. -/
inductive Step where
  /-- Reads a character out of a set and goes on. -/
  | read (set : List Nat) (next : Nat)
  /-- Goes on if an anchor holds. -/
  | check (a : Anchor) (next : Nat)
  /-- Goes on at two places, rather at the first one. -/
  | choose (first second : Nat)
  | accept

/-- The steps at all places, by number, and the place to begin at. -/
structure Machine where
  steps : Array Step
  first : Nat

namespace Machine

/-- A choice between two places, rather of the first one if it is greedy. -/
def choice (greedy : Bool) (first second : Nat) : Step :=
  if greedy then .choose first second else .choose second first

/-- Adds a step in front of a machine. -/
def before (s : Nat → Step) (m : Machine) : Machine := ⟨m.steps.push (s m.first), m.steps.size⟩

/-- Adds a pattern in front of a machine. A repetition that can take no character comes back behind its
first round only, so that the way around it that takes nothing is no way to go on. -/
def prepend : Pattern → Machine → Machine
  | .empty, m => m
  | .literal cs, m => cs.foldr (fun c => before (.read (single c))) m
  | .oneOf _ set, m => m.before (.read set)
  | .anchor a, m => m.before (.check a)
  | .optional greedy p, m =>
    (prepend p m).before fun first => choice greedy first m.first
  | .star greedy p, m =>
    let inner := around greedy p.isSolid m (prepend p)
    if p.isSolid then inner else inner.before fun first => choice greedy first m.first
  | .plus greedy p, m => around greedy false m (prepend p)
  | .group _ p, m => prepend p m
  | .seq p q, m => prepend p (prepend q m)
  | .alt p q, m =>
    let second := prepend q m
    (prepend p ⟨second.steps, m.first⟩).before fun first => .choose first second.first
where
  /-- Adds a choice between a pattern and a machine, and the pattern in front of that choice. The machine
  begins at the choice or, otherwise, at the pattern. -/
  around (greedy atChoice : Bool) (m : Machine) (body : Machine → Machine) : Machine :=
    let place := m.steps.size
    let inner := body ⟨m.steps.push .accept, place⟩
    ⟨inner.steps.setIfInBounds place (choice greedy inner.first m.first),
      if atChoice then place else inner.first⟩

/-- The machine of a pattern. -/
def of (p : Pattern) : Machine := prepend p ⟨#[.accept], 0⟩

/-- Whether a place is one at which the machine accepts. -/
def accepts (m : Machine) (place : Nat) : Bool := m.steps[place]? matches some .accept

/-- Places that were reached, the latest one first, and for each place of the machine whether it is among
them. -/
structure Reached where
  places : List Nat
  marks : Array Bool

/-- Nothing was reached yet. -/
def unreached (m : Machine) : Reached := ⟨[], Array.replicate m.steps.size false⟩

/-- One more place. -/
def Reached.push (r : Reached) (place : Nat) : Reached :=
  ⟨place :: r.places, r.marks.setIfInBounds place true⟩

/-- Adds the places that are reached from a place without reading, between two characters. -/
def visit (m : Machine) (before after : Option Char) : Nat → Nat → Reached → Reached
  | 0, _, r => r
  | fuel + 1, place, r =>
    if r.marks[place]? = some false then
      match m.steps[place]? with
      | some (.check a next) =>
        if a.holds before after then m.visit before after fuel next (r.push place) else r.push place
      | some (.choose first second) =>
        m.visit before after fuel second (m.visit before after fuel first (r.push place))
      | _ => r.push place
    else r

/-- The places that are reached without reading from any of several places, the preferred ones first. -/
def closure (m : Machine) (before after : Option Char) (places : List Nat) : List Nat :=
  let reached := places.foldl (fun r place => m.visit before after m.steps.size place r) m.unreached
  reached.places.reverse

/-- Where to go on from a place after the character `c`. -/
def afterReading? (m : Machine) (c : Char) (place : Nat) : Option Nat :=
  match m.steps[place]? with
  | some (.read set next) => if inChanges set c then some next else none
  | _ => none

end Machine

/-! ## Searching a text -/

/-- How far a search has come. -/
structure Search where
  /-- Where the matches go on that have begun, the preferred ones first. -/
  places : List Nat := []
  /-- Whether a match may begin later, as none was found yet. -/
  seeking : Bool := true

namespace Search

/-- The places that are reached at a position. -/
def reached (m : Machine) (before after : Option Char) (s : Search) : List Nat :=
  m.closure before after (s.places ++ if s.seeking then [m.first] else [])

/-- Whether there is a match at the positions inside of a character, which takes several bytes. -/
def matchesInside (m : Machine) (c : Char) : Bool :=
  1 < c.utf8Size && (m.closure (some c) (some c) [m.first]).any m.accepts

/-- Reads the character `c`. -/
def read (m : Machine) (before : Option Char) (c : Char) (s : Search) : Search :=
  let reached := s.reached m before (some c)
  { places := (reached.takeWhile fun place => !m.accepts place).filterMap (m.afterReading? c)
    seeking := s.seeking && !reached.any m.accepts && !matchesInside m c }

/-- Whether a match ends where the text ends. -/
def endsMatch (m : Machine) : Option Char → Search → List Char → Bool
  | before, s, [] => (s.reached m before none).any m.accepts
  | before, s, c :: cs => endsMatch m (some c) (s.read m before c) cs

end Search

/-- Whether the match of a pattern in a text reaches the end of the text. It is the match that begins
furthest to the left, and of those the preferred one. -/
def Pattern.reachesEnd (p : Pattern) (text : List Char) : Bool :=
  Search.endsMatch (Machine.of p) none {} text

end DeviceMessaging.Text
