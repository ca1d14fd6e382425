import RouteBus.Bus.Streams

/-!
# The router

Registering routes and running them on locations. A navigation reads the
location first and the list of routes after it; both stay as they were read for
the whole navigation.
-/

namespace RouteBus.Router

variable {ε ν κ : Type}

-- ---------------------------------------------------------------------------
-- Going somewhere
-- ---------------------------------------------------------------------------

def push (text : String) (hub : Hub ε ν κ) : Hub ε ν κ :=
  let before := hub.router.location
  let after := before.push text
  let hub := (hub.withLocation after).record (.locationPushed before.current after.current)
  if before.notifies then hub else hub.record .navigationDropped

/-- Moves to the location that `template` and `args` resolve to, complete or not. -/
def go (template : String) (args : List String) :
    Task (Hub ε ν κ) (Except TemplateError String) :=
  match resolve template args with
  | .error e => .done (.error e)
  | .ok target => do
    Task.modify (push target.uri)
    return .ok target.uri

def follow (template : Template) (args : List String) : Task (Hub ε ν κ) Unit := do
  let target := template.resolve args
  if target.complete then Task.modify (push target.uri)
  else
    Task.modify fun hub => hub.record (.targetIncomplete hub.router.name template.raw args)
    Task.modify (push target.uri)

def action {ι : Type} (template : Template) (args : ι → List String) (value : ι) :
    Task (Hub ε ν κ) ι := do
  follow template (args value)
  return value

-- ---------------------------------------------------------------------------
-- Running routes
-- ---------------------------------------------------------------------------

def perform (host : Host ε ν κ) : RouteStep κ → Params → Task (Hub ε ν κ) Params
  | .bus operation template args, params => Bus.action host operation template args params
  | .go template args, params => action template args params
  | .custom step, params => host.perform step params

def runChains (host : Host ε ν κ) : List (RouteChain κ) → Params → Task (Hub ε ν κ) Params
  | [], params => .done params
  | chain :: chains, params => do runChains host chains (← chain.run (perform host) params)

def fire (host : Host ε ν κ) (location : String) (index : Nat) (route : Route κ) :
    Task (Hub ε ν κ) (Option Params) :=
  match route.template.captures location with
  | none => .done none
  | some params => do
    Hub.tell (.chainStarted index params)
    let _ ← runChains host route.chains params
    return some params

-- ---------------------------------------------------------------------------
-- Registering
-- ---------------------------------------------------------------------------

def addRoute (route : Route κ) (hub : Hub ε ν κ) : Nat × Hub ε ν κ :=
  (hub.router.routes.length,
    { hub with router := { hub.router with routes := hub.router.routes ++ [route] } }.record
      (.routeRegistered hub.router.name route.template.raw))

/-- Registers a route and runs it at once if the current location matches. -/
def register (host : Host ε ν κ) (template : String) (chains : List (RouteChain κ)) :
    Task (Hub ε ν κ) (Except TemplateError Unit) :=
  match Template.parse template with
  | .error e => .done (.error e)
  | .ok t => do
    let index ← Task.atomically (addRoute ⟨t, chains⟩)
    let location ← Task.read (·.router.location.current)
    match ← fire host location index ⟨t, chains⟩ with
    | none => return .ok ()
    | some params =>
      Task.modify fun hub =>
        hub.record (.routeReplayed hub.router.name template location params)
      return .ok ()

-- ---------------------------------------------------------------------------
-- Navigating
-- ---------------------------------------------------------------------------

/-- Runs routes that match, in order, and counts them; `index` is that of the first. -/
def fireAll (host : Host ε ν κ) (location : String) :
    Nat → List (Route κ) → Task (Hub ε ν κ) Nat
  | _, [] => .done 0
  | index, route :: routes => do
    match ← fire host location index route with
    | none => fireAll host location (index + 1) routes
    | some params =>
      Task.modify fun hub =>
        hub.record (.navigationMatched hub.router.name route.template.raw params)
      return (← fireAll host location (index + 1) routes) + 1

def arrive (previous : String) (hub : Hub ε ν κ) : String × Hub ε ν κ :=
  let location := hub.router.location.current
  (location, hub.record (.navigationReceived hub.router.name previous location))

/-- Runs every route that matches the current location, whatever location the
navigation itself names, and says how many there were. -/
def onNavigation (host : Host ε ν κ) (navigation : Navigation) : Task (Hub ε ν κ) Nat := do
  let location ← Task.atomically (arrive navigation.previous)
  let routes ← Task.read (·.router.routes)
  let fired ← fireAll host location 0 routes
  if fired = 0 then
    Task.modify fun hub => hub.record (.navigationUnmatched hub.router.name location)
  return fired

inductive Arrival where
  | navigation (navigation : Navigation)
  | nothing
  | ended
  deriving DecidableEq, Repr

def receive (hub : Hub ε ν κ) : Arrival × Hub ε ν κ :=
  match hub.router.location.next? with
  | some (navigation, location) => (.navigation navigation, hub.withLocation location)
  | none => (if hub.router.location.closed then .ended else .nothing, hub)

/-- Handles navigations as they come until the queue has ended, at most `limit`
of them; while there is none it is suspended. -/
def listen (host : Host ε ν κ) : Nat → Task (Hub ε ν κ) Unit
  | 0 => .done ()
  | limit + 1 => do
    match ← Task.atomically receive with
    | .navigation navigation =>
      let _ ← onNavigation host navigation
      listen host limit
    | .nothing => .yield (listen host limit)
    | .ended => Task.modify fun hub => hub.record (.navigationsEnded hub.router.name)

end RouteBus.Router
