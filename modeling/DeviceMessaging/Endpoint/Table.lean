import DeviceMessaging.Endpoint.Kind
import DeviceMessaging.Error
import DeviceMessaging.Keyed
import DeviceMessaging.Text.Blank
import DeviceMessaging.Text.Split

/-!
# `Endpoint.Table` — which kind an endpoint name stands for

A table starts from the canonical names and their first letters. Aliases are added one at a time, or
as a list of `alias=kind` entries separated by commas; a list is taken as a whole or not at all.

## Contents
- `EndpointTable`, with `empty`, `standard`, `insert`, `resolve`; `==` compares what tables answer.
- `AliasFault`: what is wrong with an alias entry.
- `aliasEntries`, `readAlias`, `EndpointTable.withAliases`: lists of aliases.
- `EndpointTable.Edit`, `EndpointTable.edited`: the steps of a table's history.
-/

namespace DeviceMessaging

/-! ## Tables -/

/-- A table from endpoint names to kinds. -/
structure EndpointTable where
  names : Keyed String EndpointKind

namespace EndpointTable

/-- Tables are equal if they hold the same kind, or none, under every name. -/
instance : BEq EndpointTable := ⟨fun a b => a.names.agrees b.names⟩

/-- The table without names. -/
def empty : EndpointTable := ⟨Keyed.empty⟩

/-- Lets a name stand for a kind, whatever it stood for before. -/
def insert (t : EndpointTable) (name : String) (kind : EndpointKind) : EndpointTable :=
  ⟨t.names.insert name kind⟩

/-- The canonical names and their first letters. -/
def standard : EndpointTable :=
  ⟨Keyed.ofList [("telemetry", .telemetry), ("t", .telemetry), ("event", .event), ("e", .event),
    ("command", .command), ("c", .command)]⟩

/-- The kind that a name stands for; names that are not in the table are unknown. -/
def resolve (t : EndpointTable) (name : String) : EndpointKind := (t.names.find? name).getD .unknown

theorem resolve_insert (t : EndpointTable) (name n : String) (kind : EndpointKind) :
    (t.insert name kind).resolve n = if n = name then kind else t.resolve n := by
  simp only [insert, resolve, Keyed.find?_insert]
  split <;> rfl

theorem beq_iff {a b : EndpointTable} :
    (a == b) = true ↔ ∀ n, a.names.find? n = b.names.find? n := Keyed.agrees_iff

end EndpointTable

/-! ## Lists of aliases -/

/-- What is wrong with an entry of an alias list. -/
inductive AliasFault where
  /-- The entry has no equals sign. -/
  | noPair (entry : String)
  /-- The alias is empty or contains a slash, and so is no topic segment. -/
  | badName (name : String)
  /-- The kind is not one of the known ones. -/
  | badKind (kind : String)
  deriving DecidableEq

namespace AliasFault

/-- What is wrong, in words. -/
def detail : AliasFault → String
  | noPair e => "Invalid endpoint alias '" ++ e ++ "': expected 'alias=kind'"
  | badName n => "Invalid endpoint alias name '" ++ n ++ "'"
  | badKind k => "Unknown endpoint kind '" ++ k ++ "': expected telemetry, event or command"

/-- The fault as an error of the library. -/
def toError (f : AliasFault) : Error := .invalidConfig f.detail

end AliasFault

/-- The known kind of a canonical name, or the fault that there is none. -/
def EndpointKind.ofName (name : String) : Except AliasFault EndpointKind :=
  match ofName? name with
  | some k => .ok k
  | none => .error (.badKind name)

/-- The entries of an alias list: the parts between commas, trimmed, empty ones left out. -/
def aliasEntries (aliases : String) : List String :=
  ((Text.segments ',' aliases).map Text.trim).filter fun e => decide (e ≠ "")

/-- The name and kind of one entry. -/
def readAlias (entry : String) : Except AliasFault (String × EndpointKind) :=
  match Text.cut '=' entry with
  | none => .error (.noPair entry)
  | some (left, right) =>
    let name := Text.trim left
    if name = "" ∨ '/' ∈ name.toList then .error (.badName name)
    else (EndpointKind.ofName (Text.trim right)).map fun kind => (name, kind)

/-- Reads entries in order and stops at the first bad one. -/
def readAliases : List String → Except AliasFault (List (String × EndpointKind))
  | [] => .ok []
  | e :: es =>
    match readAlias e with
    | .error f => .error f
    | .ok a => (readAliases es).map (a :: ·)

namespace EndpointTable

/-- Adds all entries of an alias list, later ones over earlier ones, or none if one is bad. -/
def withAliases (t : EndpointTable) (aliases : String) : Except AliasFault EndpointTable :=
  (readAliases (aliasEntries aliases)).map fun named =>
    named.foldl (fun t a => t.insert a.1 a.2) t

/-! ## Histories -/

/-- One step in the history of a table. -/
inductive Edit where
  /-- One name is given a kind. -/
  | name (name : String) (kind : EndpointKind)
  /-- A list of aliases is added. -/
  | aliases (aliases : String)

/-- The table after a step, if the step succeeds. -/
def edited (t : EndpointTable) : Edit → Except AliasFault EndpointTable
  | .name n k => .ok (t.insert n k)
  | .aliases s => t.withAliases s

/-- The table that is kept after a step: a step that fails leaves it as it was. -/
def keep (t : EndpointTable) (e : Edit) : EndpointTable :=
  match t.edited e with
  | .ok t' => t'
  | .error _ => t

end EndpointTable

end DeviceMessaging
