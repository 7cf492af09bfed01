import DeviceMessaging.Error
import DeviceMessaging.Text.Blank
import DeviceMessaging.Text.Fold

/-!
# `CacheDirective` — how long a response may be reused

## Contents
- `CacheDirective`, with `isCacheable` and `lifetime`.
- `CacheDirective.render` and `CacheDirective.parse`: the text form. Parsing ignores blanks around the
  text and the case of its letters, and takes one plus sign and leading zeros before the number.
-/

namespace DeviceMessaging

/-- Advice to the caches on the way of a response. -/
inductive CacheDirective where
  /-- The response must not be reused. -/
  | noCache
  /-- The response may be reused for a number of seconds. -/
  | maxAge (seconds : UInt64)
  deriving DecidableEq

namespace CacheDirective

/-- The directive for a time of whole seconds and nanoseconds: the fraction of a second is dropped. -/
def ofDuration (seconds nanoseconds : Nat) : CacheDirective :=
  .maxAge (seconds + nanoseconds / 1000000000).toUInt64

/-- Whether a response may be reused at all. -/
def isCacheable : CacheDirective → Bool
  | .noCache => false
  | .maxAge s => 0 < s

/-- The seconds for which a response may be reused. -/
def lifetime : CacheDirective → Option UInt64
  | .noCache => none
  | .maxAge s => some s

/-! ## Text form -/

def noCacheText : List Char := "no-cache".toList

def maxAgeText : List Char := "max-age=".toList

/-- The text of a directive. -/
def render : CacheDirective → String
  | .noCache => "no-cache"
  | .maxAge s => "max-age=" ++ Text.decimal s.toNat

/-- Reads trimmed characters. -/
def ofChars (cs : List Char) : Option CacheDirective :=
  if Text.sameLetters cs noCacheText then some .noCache
  else
    ((Text.afterLetters maxAgeText cs).bind (Text.readBelow 10 UInt64.size)).map
      fun n => .maxAge n.toUInt64

/-- Reads a directive; the error carries the text without the blanks around it. -/
def parse (s : String) : Except Error CacheDirective :=
  let v := Text.trim s
  match ofChars v.toList with
  | some d => .ok d
  | none => .error (.invalidCacheDirective v)

end CacheDirective

end DeviceMessaging
