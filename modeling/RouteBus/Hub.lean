import RouteBus.Bus.Basic
import RouteBus.Navigation.Route
import RouteBus.Task

/-!
# The hub

A bus and a router with one history, and the host they run in. The host supplies
the transport, the listeners and route steps of its own; what it does is a task
on the hub, so it may call bus and router in turn.
-/

namespace RouteBus

/-- An entry of the history: an event, or a note of the host. -/
inductive Entry (ν : Type) where
  | event (event : Event)
  | note (note : ν)
  deriving DecidableEq, Repr

/-- `ε` is the state of the host, `ν` are its notes and `κ` its route steps. -/
structure Hub (ε ν κ : Type) where
  bus : Bus
  router : Router κ
  /-- The latest entry first. -/
  history : List (Entry ν)
  host : ε

structure Host (ε ν κ : Type) where
  /-- Connects to a key. What arrives, even before the connect ends, goes to `deliver`. -/
  connect (key : String) (deliver : String → Task (Hub ε ν κ) Unit) :
    Task (Hub ε ν κ) (Except TransportFailure Unit)
  request (uri : String) : Task (Hub ε ν κ) (Except TransportFailure String)
  disconnect (handle : Handle) : Task (Hub ε ν κ) Unit
  hear (listener : Nat) (message : Message) : Task (Hub ε ν κ) Unit
  deaf (state : ε) (listener : Nat) : Bool
  perform (step : κ) (params : Params) : Task (Hub ε ν κ) Params

namespace Hub

variable {ε ν κ : Type}

def new (name location : String) (host : ε) : Hub ε ν κ where
  bus := .new name
  router := .new name location
  history := [.event (.routerReady name), .event (.busReady name)]
  host := host

def record (event : Event) (hub : Hub ε ν κ) : Hub ε ν κ :=
  { hub with history := .event event :: hub.history }

def note (note : ν) (hub : Hub ε ν κ) : Hub ε ν κ :=
  { hub with history := .note note :: hub.history }

def withTopics (topics : List Group) (hub : Hub ε ν κ) : Hub ε ν κ :=
  { hub with bus := { hub.bus with topics } }

def withConnections (connections : Connections) (hub : Hub ε ν κ) : Hub ε ν κ :=
  { hub with bus := { hub.bus with connections } }

def withLocation (location : Location) (hub : Hub ε ν κ) : Hub ε ν κ :=
  { hub with router := { hub.router with location } }

def tell (event : Event) : Task (Hub ε ν κ) Unit := .modify (record event)

end Hub

end RouteBus
