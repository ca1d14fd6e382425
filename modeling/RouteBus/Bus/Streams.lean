import RouteBus.Bus.Dispatch

/-!
# Streams

Opening, closing and fetching. A key is claimed in one step before the host
connects to it, and claimed until the connect has ended, so one key is never
connected twice. Closing takes connections out of the table in one step and
disconnects them afterwards.
-/

namespace RouteBus.Bus

variable {ε ν κ : Type}

-- ---------------------------------------------------------------------------
-- Opening
-- ---------------------------------------------------------------------------

def claim (key : String) (hub : Hub ε ν κ) : Bool × Hub ε ν κ :=
  if hub.bus.connections.isConnected key then (false, hub.record (.openSkipped key))
  else match hub.bus.connections.reserve key with
    | none => (false, hub.record (.openSkipped key))
    | some connections => (true, (hub.withConnections connections).record (.openStarted key))

def mint (key : String) (hub : Hub ε ν κ) : Handle × Hub ε ν κ :=
  let handle := ⟨key, hub.bus.handlesMade⟩
  (handle, { hub with bus := { hub.bus with handlesMade := hub.bus.handlesMade + 1 } }.record
    (.connected handle))

/-- Stores a connection in place of the claim on its key, and gives it back if
it cannot be stored. -/
def store (handle : Handle) (hub : Hub ε ν κ) : Option Handle × Hub ε ν κ :=
  match hub.bus.connections.store handle with
  | (connections, some duplicate) => (some duplicate, hub.withConnections connections)
  | (connections, none) =>
    (none, (hub.withConnections connections).record (.opened handle connections.opened.length))

def abandon (key : String) (failure : TransportFailure) (hub : Hub ε ν κ) : Hub ε ν κ :=
  (hub.withConnections (hub.bus.connections.release key)).record (.openFailed key failure)

def disconnect (host : Host ε ν κ) (handle : Handle) : Task (Hub ε ν κ) Unit := do
  Hub.tell (.closing handle)
  host.disconnect handle

/-- Connects to a key unless it is covered already; true if a connection was made. -/
def openTarget (host : Host ε ν κ) (key : String) :
    Task (Hub ε ν κ) (Except TransportFailure Bool) := do
  match ← Task.atomically (claim key) with
  | false => return .ok false
  | true =>
    match ← host.connect key (receiveChunk host key) with
    | .error failure =>
      Task.modify (abandon key failure)
      return .error failure
    | .ok () =>
      match ← Task.atomically (fun hub => store (mint key hub).1 (mint key hub).2) with
      | none => return .ok true
      | some duplicate =>
        disconnect host duplicate
        Hub.tell (.openSkipped key)
        return .ok false

def openStream (host : Host ε ν κ) (template : String) (args : List String) :
    Task (Hub ε ν κ) (Except StreamError Bool) :=
  match resolve template args with
  | .error e => .done (.error (.template e))
  | .ok target => (·.mapError .transport) <$> openTarget host target.uri

-- ---------------------------------------------------------------------------
-- Closing
-- ---------------------------------------------------------------------------

/-- Takes out all connections that `template` matches, unless `target` is fully
resolved and still covered. -/
def withdraw (template : Template) (target : Target) (hub : Hub ε ν κ) :
    List Handle × Hub ε ν κ :=
  if target.complete && hub.bus.connections.isConnected target.uri then
    ([], hub.record (.closeSkipped template.raw target.uri))
  else
    let (handles, connections) := hub.bus.connections.takeMatching template
    (handles, (hub.withConnections connections).record (.withdrawn handles))

def disconnectAll (host : Host ε ν κ) (template : Template) :
    List Handle → Task (Hub ε ν κ) Unit
  | [] => .done ()
  | handle :: handles => do
    disconnect host handle
    Hub.tell (.closed template.raw handle)
    disconnectAll host template handles

def closeTarget (host : Host ε ν κ) (template : Template) (target : Target) :
    Task (Hub ε ν κ) (List String) := do
  let handles ← Task.atomically (withdraw template target)
  disconnectAll host template handles
  return handles.map Handle.key

/-- Closes the streams that `template` matches, unless the one that it resolves
to under `args` is still wanted. -/
def closeStreams (host : Host ε ν κ) (template : String) (args : List String) :
    Task (Hub ε ν κ) (Except StreamError (List String)) :=
  match Template.parse template with
  | .error e => .done (.error (.template e))
  | .ok template => .ok <$> closeTarget host template (template.resolve args)

-- ---------------------------------------------------------------------------
-- Fetching
-- ---------------------------------------------------------------------------

/-- Requests a batch of messages and dispatches them. Nothing is dispatched
unless the whole batch decodes. -/
def fetchTarget (host : Host ε ν κ) (uri : String) :
    Task (Hub ε ν κ) (Except StreamError Nat) := do
  Hub.tell (.fetchStarted uri)
  match ← host.request uri with
  | .error failure =>
    Hub.tell (.fetchFailed uri failure)
    return .error (.transport failure)
  | .ok body =>
    match Message.decodeBatch body with
    | .error e =>
      Hub.tell (.fetchUndecodable uri)
      return .error (.decode uri e)
    | .ok messages =>
      dispatchAll host messages
      Hub.tell (.fetched uri messages.length)
      return .ok messages.length

def fetch (host : Host ε ν κ) (template : String) (args : List String) :
    Task (Hub ε ν κ) (Except StreamError Nat) :=
  match resolve template args with
  | .error e => .done (.error (.template e))
  | .ok target => fetchTarget host target.uri

-- ---------------------------------------------------------------------------
-- In a route
-- ---------------------------------------------------------------------------

def attempt (host : Host ε ν κ) (template : Template) (args : List String) :
    Operation → Task (Hub ε ν κ) (Except StreamError Unit)
  | .stream => (fun r => (r.mapError .transport).map fun _ => ()) <$>
      openTarget host (template.resolve args).uri
  | .close => (fun _ => .ok ()) <$> closeTarget host template (template.resolve args)
  | .fetch => (fun r => r.map fun _ => ()) <$> fetchTarget host (template.resolve args).uri

/-- Carries out an operation. A failure is recorded and goes no further. -/
def carryOut (host : Host ε ν κ) (operation : Operation) (template : Template)
    (args : List String) : Task (Hub ε ν κ) Unit := do
  match ← attempt host template args operation with
  | .ok () => return ()
  | .error e => Hub.tell (.failureSwallowed operation template.raw args e)

def action {ι : Type} (host : Host ε ν κ) (operation : Operation) (template : Template)
    (args : ι → List String) (value : ι) : Task (Hub ε ν κ) ι := do
  carryOut host operation template (args value)
  return value

end RouteBus.Bus
