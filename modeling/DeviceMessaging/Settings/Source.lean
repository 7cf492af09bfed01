import DeviceMessaging.Settings.Basic
import DeviceMessaging.Settings.Place
import DeviceMessaging.Text.Quoted

/-!
# `Settings.Source` — reading settings from variables and from documents

Settings that are not given keep their defaults, and names that are not settings are ignored.

## Contents
- `SettingsFault`: a value of the wrong type.
- `Settings.ofVariables`: from environment variables.
- `Settings.ofDocument`: from a JSON document.
-/

namespace DeviceMessaging

/-! ## Faults -/

/-- A value of the wrong type: in a variable, or in a document. -/
inductive SettingsFault where
  /-- The text of a variable is no truth value. -/
  | notTruth (setting text : String)
  /-- Variables make a map or a sequence of a setting. -/
  | notPlain (setting found wanted : String)
  /-- A document holds one thing where another is wanted. -/
  | wrongType (found wanted : String)

/-- The text of a fault. -/
def SettingsFault.message : SettingsFault → String
  | notTruth setting text =>
    "invalid type: string " ++ Text.quoted text ++ ", expected a boolean for key `" ++ setting ++
      "` in the environment"
  | notPlain setting found wanted =>
    "invalid type: " ++ found ++ ", expected " ++ wanted ++ " for key `" ++ setting ++ "`"
  | wrongType found wanted => "invalid type: " ++ found ++ ", expected " ++ wanted

namespace Settings

/-! ## Variables -/

/-- What variables hold, by setting; of several variables for a setting the last one counts. -/
def held (vars : List (String × String)) : Keyed String Place.Held :=
  Keyed.ofList (vars.filterMap fun v =>
    (Place.ofVariable? v.1).map fun p => (p.setting, p.hold v.2))

/-- The truth value that a lower-case text stands for. -/
def truthOf? (text : String) : Option Bool :=
  if text ∈ ["1", "true", "on", "yes"] then some true
  else if text ∈ ["0", "false", "off", "no"] then some false
  else none

/-- The truth value of a setting. -/
def heldTruth (setting : String) (default : Bool) : Option Place.Held → Except SettingsFault Bool
  | none => .ok default
  | some (.text t) =>
    match truthOf? (Text.lowerCase t) with
    | some b => .ok b
    | none => .error (.notTruth setting (Text.lowerCase t))
  | some .map => .error (.notPlain setting "map" "a boolean")
  | some .sequence => .error (.notPlain setting "sequence" "a boolean")

/-- The text of a setting. -/
def heldText (setting default : String) : Option Place.Held → Except SettingsFault String
  | none => .ok default
  | some (.text t) => .ok t
  | some .map => .error (.notPlain setting "map" "a string")
  | some .sequence => .error (.notPlain setting "sequence" "a string")

/-- The settings that environment variables hold. -/
def ofVariables (vars : List (String × String)) : Except SettingsFault Settings := do
  let given := held vars
  let defaults : Settings := {}
  let text (setting default : String) := heldText setting default (given.find? setting)
  return {
    logLevel := ← text "log_level" defaults.logLevel
    endpointAliases := ← text "endpoint_aliases" defaults.endpointAliases
    componentName := ← text "component_name" defaults.componentName
    otelEndpoint := ← text "otel_endpoint" defaults.otelEndpoint
    otelEnabled := ← heldTruth "otel_enabled" defaults.otelEnabled (given.find? "otel_enabled")
    otelServiceName := ← text "otel_service_name" defaults.otelServiceName }

/-! ## Documents -/

/-- What a document is, in the words of a fault. -/
def describe : Json → String
  | .null => "null"
  | .bool b => "boolean `" ++ (if b then "true" else "false") ++ "`"
  | .int n =>
    "integer `" ++ (if n < 0 then "-" else "") ++ Text.decimal n.natAbs ++ "`"
  | .str s => "string " ++ Text.quoted s
  | .arr _ => "sequence"
  | .obj _ => "map"

/-- The text that a document is, if it is given. -/
def readText (default : String) : Option Json → Except SettingsFault String
  | none => .ok default
  | some (.str s) => .ok s
  | some j => .error (.wrongType (describe j) "a string")

/-- The truth value that a document is, if it is given. -/
def readFlag (default : Bool) : Option Json → Except SettingsFault Bool
  | none => .ok default
  | some (.bool b) => .ok b
  | some j => .error (.wrongType (describe j) "a boolean")

/-- The settings that a document holds. Members are read in the order of their names, and the first bad
one is reported. -/
def ofDocument (document : Json) : Except SettingsFault Settings :=
  match document with
  | .obj _ => do
    let defaults : Settings := {}
    let componentName ← readText defaults.componentName (document.member? "component_name")
    let endpointAliases ← readText defaults.endpointAliases (document.member? "endpoint_aliases")
    let logLevel ← readText defaults.logLevel (document.member? "log_level")
    let otelEnabled ← readFlag defaults.otelEnabled (document.member? "otel_enabled")
    let otelEndpoint ← readText defaults.otelEndpoint (document.member? "otel_endpoint")
    let otelServiceName ← readText defaults.otelServiceName (document.member? "otel_service_name")
    return {
      logLevel, endpointAliases, componentName, otelEndpoint, otelEnabled, otelServiceName }
  | j => .error (.wrongType (describe j) "struct AdapterConfig")

end Settings

end DeviceMessaging
