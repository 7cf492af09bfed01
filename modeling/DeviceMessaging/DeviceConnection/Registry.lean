import DeviceMessaging.DeviceConnection.Client

/-!
# `DeviceConnection.Registry` — one client per tenant

A registry hands out clients and keeps them by tenant. Callers share it under a lock: looking a client
up takes the lock for reading, creating or removing one takes it for writing. Between the two sections
of a request for a client other callers may come in.

## Contents
- `NumberedClient`: a client with the identity that its creation gave it.
- `Registry`, with its lock sections `lookup?`, `obtain`, `remove` and `count`.
- `Registry.Call`, `Registry.Answer`, `Registry.serve`: calls in one piece.
- `Registry.Stage`, `Registry.advance`: calls section by section.
- `Registry.Session`, `Registry.Session.step`: several calls whose sections alternate, or that are given
  up while they wait for the lock.
-/

namespace DeviceMessaging

/-- A client with the identity that its creation gave it. -/
structure NumberedClient (ι : Type) where
  number : Nat
  client : Client ι

/-- Clients by tenant, all over one service. -/
structure Registry (ι : Type) where
  /-- The instance that new clients get clones of. -/
  service : ι
  clients : Keyed String (NumberedClient ι)
  /-- How many clients have been created. -/
  created : Nat

namespace Registry

variable {ι : Type}

/-- A registry without clients. -/
def ofService (service : ι) : Registry ι := ⟨service, Keyed.empty, 0⟩

/-- The event that a client is created. -/
def creationEvent (tenant : String) : Event :=
  { level := .debug, origin := .clientRegistry, message := "creating device connection client",
    fields := [("tenant_id", tenant)] }

/-! ## Lock sections -/

/-- The reading section of a request for a client. -/
def lookup? (g : Registry ι) (tenant : String) : Option (NumberedClient ι) := g.clients.find? tenant

/-- The writing section of a request for a client: creates it unless it is there by now. -/
def obtain (S : Service ι) (g : Registry ι) (tenant : String) :
    List Event × NumberedClient ι × Registry ι :=
  match g.clients.find? tenant with
  | some c => ([], c, g)
  | none =>
    let c : NumberedClient ι := ⟨g.created, ⟨tenant, S.clone g.service⟩⟩
    ([creationEvent tenant], c,
      { g with clients := g.clients.insert tenant c, created := g.created + 1 })

/-- Forgets the client of a tenant, and says whether there was one. -/
def remove (g : Registry ι) (tenant : String) : Bool × Registry ι :=
  (g.clients.contains tenant, { g with clients := g.clients.erase tenant })

/-- The number of clients that are kept. -/
def count (g : Registry ι) : Nat := g.clients.size

/-! ## Calls in one piece -/

/-- What callers ask of a registry. -/
inductive Call where
  | client (tenant : String)
  | remove (tenant : String)
  | count
  deriving DecidableEq

/-- What a call answers. -/
inductive Answer (ι : Type) where
  | client (client : NumberedClient ι)
  | removed (existed : Bool)
  | count (n : Nat)

/-- Serves a call while nobody else uses the registry. -/
def serve (S : Service ι) (g : Registry ι) : Call → List Event × Answer ι × Registry ι
  | .client t =>
    let (events, c, g') := g.obtain S t
    (events, .client c, g')
  | .remove t =>
    let (existed, g') := g.remove t
    ([], .removed existed, g')
  | .count => ([], .count g.count, g)

/-! ## Calls in sections -/

/-- The lock section for which a call waits. -/
inductive Stage where
  | lookup (tenant : String)
  | obtain (tenant : String)
  | remove (tenant : String)
  | count
  deriving DecidableEq

/-- The first section of a call. -/
def Call.begin : Call → Stage
  | .client t => .lookup t
  | .remove t => .remove t
  | .count => .count

/-- Runs the section for which a call waits: the call goes on to another section, or it answers. -/
def advance (S : Service ι) (g : Registry ι) : Stage → List Event × (Stage ⊕ Answer ι) × Registry ι
  | .lookup t =>
    match g.lookup? t with
    | some c => ([], .inr (.client c), g)
    | none => ([], .inl (.obtain t), g)
  | .obtain t =>
    let (events, c, g') := g.obtain S t
    (events, .inr (.client c), g')
  | .remove t =>
    let (existed, g') := g.remove t
    ([], .inr (.removed existed), g')
  | .count => ([], .inr (.count g.count), g)

/-! ## Several callers -/

/-- How far a call has come. -/
inductive Progress (ι : Type) where
  | waiting (stage : Stage)
  | answered (answer : Answer ι)
  | cancelled

/-- A registry with the calls of several callers, and the events written so far. -/
structure Session (ι : Type) where
  registry : Registry ι
  calls : List (Progress ι)
  events : List Event

/-- What happens next to a call: its section runs, or its caller gives it up. -/
inductive Move where
  | advance (call : Nat)
  | cancel (call : Nat)

namespace Session

/-- A session at whose beginning all calls wait for their first sections. -/
def ofCalls (g : Registry ι) (calls : List Call) : Session ι :=
  ⟨g, calls.map fun c => .waiting c.begin, []⟩

/-- One move; a call that no longer waits stays as it is. -/
def step (S : Service ι) (s : Session ι) : Move → Session ι
  | .advance k =>
    match s.calls[k]? with
    | some (.waiting stage) =>
      let (events, next, g) := s.registry.advance S stage
      let progress := match next with
        | .inl stage' => .waiting stage'
        | .inr answer => .answered answer
      ⟨g, s.calls.set k progress, s.events ++ events⟩
    | _ => s
  | .cancel k =>
    match s.calls[k]? with
    | some (.waiting _) => { s with calls := s.calls.set k .cancelled }
    | _ => s

/-- A sequence of moves. -/
def run (S : Service ι) (s : Session ι) (moves : List Move) : Session ι := moves.foldl (step S) s

/-- The answers so far. -/
def answers (s : Session ι) : List (Answer ι) :=
  s.calls.filterMap fun
    | .answered a => some a
    | _ => none

end Session

end Registry

end DeviceMessaging
