/-!
# `Telemetry.Address` — addresses of endpoints

An address is a scheme, an authority and a path with or without a query, or an authority alone, or a path
alone. What follows a `#` is not looked at.

## Contents
- `Address.Fault`: what is wrong with an address.
- `Address.splitScheme`, `Address.checkAuthority`, `Address.checkTarget`: its parts.
- `Address.check`.
-/

namespace DeviceMessaging.Address

/-! ## Faults -/

/-- What is wrong with an address. -/
inductive Fault where
  | empty
  | tooLong
  | schemeTooLong
  | badCharacter
  | badAuthority
  /-- The parts are fine, but do not make an address together. -/
  | badFormat
  deriving DecidableEq

/-- The name of a fault. -/
def Fault.name : Fault → String
  | empty => "empty string"
  | tooLong => "uri too long"
  | schemeTooLong => "scheme too long"
  | badCharacter => "invalid uri character"
  | badAuthority => "invalid authority"
  | badFormat => "invalid format"

/-! ## The scheme -/

/-- The most bytes of an address. -/
def mostBytes : Nat := 65534

/-- The most characters of a scheme. -/
def longestScheme : Nat := 64

/-- The characters of schemes. -/
def inScheme (c : Char) : Bool := c.isAlphanum || "+-.~".toList.contains c

/-- What follows a scheme and `://`, if an address begins with them. `://` alone is no such beginning. -/
def splitScheme (cs : List Char) : Except Fault (Option (List Char)) :=
  let scheme := cs.takeWhile inScheme
  match cs.dropWhile inScheme with
  | ':' :: '/' :: '/' :: rest =>
    if scheme = [] ∧ rest = [] then .ok none
    else if longestScheme < scheme.length then .error .schemeTooLong
    else .ok (some rest)
  | _ => .ok none

/-! ## The authority -/

/-- The characters of authorities. -/
def inAuthority (c : Char) : Bool := c.isAlphanum || "!$&'()*+,-.;=_~".toList.contains c

/-- The characters that end an authority. -/
def endsAuthority (c : Char) : Bool := c == '/' || c == '?' || c == '#'

/-- What was seen of an authority. A bracketed host, or the user before an `@`, takes the colons and
percent signs before it along. -/
structure Scan where
  colons : Nat := 0
  opened : Bool := false
  closed : Bool := false
  percent : Bool := false

/-- The most colons that are looked at. -/
def mostColons : Nat := 8

/-- Goes on by one character of an authority. -/
def Scan.step (s : Scan) (c : Char) : Except Fault Scan :=
  if c = ':' then
    if mostColons ≤ s.colons then .error .badAuthority else .ok { s with colons := s.colons + 1 }
  else if c = '[' then
    if s.percent ∨ s.opened then .error .badAuthority else .ok { s with opened := true }
  else if c = ']' then
    if !s.opened ∨ s.closed then .error .badAuthority
    else .ok { s with closed := true, colons := 0, percent := false }
  else if c = '@' then .ok { s with colons := 0, percent := false }
  else if c = '%' then .ok { s with percent := true }
  else if inAuthority c then .ok s
  else .error .badCharacter

/-- Checks an authority, which may be empty: brackets are closed, there is one colon at most, something
follows the user, and percent signs are in the user or in brackets only. -/
def checkAuthority (cs : List Char) : Except Fault Unit := do
  let s ← cs.foldlM Scan.step {}
  if s.opened ≠ s.closed ∨ 1 < s.colons ∨ cs.getLast? = some '@' ∨ s.percent then
    throw .badAuthority

/-! ## Path and query -/

/-- The characters of paths. -/
def inPath (c : Char) : Bool :=
  let n := c.toNat
  n == 0x21 || n == 0x22 || (0x24 ≤ n && n ≤ 0x3B) || n == 0x3D || (0x40 ≤ n && n ≤ 0x5F) ||
    (0x61 ≤ n && n ≤ 0x7E) || 0x80 ≤ n

/-- The characters of queries. -/
def inQuery (c : Char) : Bool :=
  let n := c.toNat
  n == 0x21 || (0x24 ≤ n && n ≤ 0x3B) || n == 0x3D || (0x3F ≤ n && n ≤ 0x7E) || 0x80 ≤ n

/-- Checks a path with or without a query. -/
def checkTarget (cs : List Char) : Except Fault Unit :=
  let cs := cs.takeWhile (· != '#')
  if (cs.takeWhile (· != '?')).all inPath ∧ (cs.dropWhile (· != '?')).all inQuery then .ok ()
  else .error .badCharacter

/-! ## Addresses -/

/-- Checks an address. -/
def check (address : String) : Except Fault Unit :=
  if mostBytes < address.utf8ByteSize then .error .tooLong
  else
    match address.toList with
    | [] => .error .empty
    | ['*'] => .ok ()
    | '/' :: cs => checkTarget ('/' :: cs)
    | cs => do
      match ← splitScheme cs with
      | none =>
        checkAuthority (cs.takeWhile fun c => !endsAuthority c)
        if cs.any endsAuthority then throw (if cs.length = 1 then .badCharacter else .badFormat)
      | some [] => throw .empty
      | some rest =>
        checkAuthority (rest.takeWhile fun c => !endsAuthority c)
        if rest.head?.any endsAuthority then throw .badFormat
        checkTarget (rest.dropWhile fun c => !endsAuthority c)

end DeviceMessaging.Address
