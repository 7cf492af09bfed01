/-!
# `Json` — documents in payloads and settings

Documents pass through unchanged; only settings are ever looked into.

## Contents
- `Json`, with whole numbers only.
- `Json.member?`: a member of an object.
-/

namespace DeviceMessaging

/-- A JSON document without fractional numbers. -/
inductive Json where
  | null
  | bool (value : Bool)
  | int (value : Int)
  | str (value : String)
  | arr (items : List Json)
  | obj (members : List (String × Json))
  deriving Inhabited

/-- The member of an object under a name. -/
def Json.member? (name : String) : Json → Option Json
  | .obj members => members.lookup name
  | _ => none

end DeviceMessaging
