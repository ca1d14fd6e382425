import RouteBus.Config
import RouteBus.Navigation.Router

/-!
# Starting up

Wires bus and router as a configuration says: a listener for each topic, then
the routes in order, each of which runs at once if the initial location matches.
-/

namespace RouteBus.Config

variable {ε ν κ : Type}

def endpointStep (c : Config) (r : RoutePlan) (operation : Operation) (name : String) :
    Except ConfigError (RouteChain κ) :=
  match c.endpoint? name with
  | none => .error (.unknownEndpoint r.template name)
  | some text =>
    match RouteStep.busAt operation text Params.values with
    | .error e => .error (.invalidTemplate e)
    | .ok step => .ok (.leaf step)

/-- The chains of a route: it closes, streams and fetches, and does `last` in the end. -/
def routeChains (c : Config) (last : κ) (r : RoutePlan) : Except ConfigError (List (RouteChain κ)) := do
  let closes ← r.closes.mapM (c.endpointStep r .close)
  let streams ← r.streams.mapM (c.endpointStep r .stream)
  let fetches ← r.fetches.mapM (c.endpointStep r .fetch)
  return closes ++ streams ++ fetches ++ [.leaf (.custom last)]

/-- Registers listeners for topics in order, counting on from `listener`. -/
def subscribeTopics (listener : Nat) : List String → Task (Hub ε ν κ) (Except ConfigError Unit)
  | [] => .done (.ok ())
  | topic :: topics => do
    match ← Bus.subscribe topic (.external listener) with
    | .error e => return .error (.invalidTemplate e)
    | .ok () => subscribeTopics (listener + 1) topics

def addRoute (host : Host ε ν κ) (last : String → κ) (c : Config) (r : RoutePlan) :
    Task (Hub ε ν κ) (Except ConfigError Unit) :=
  match c.routeChains (last r.template) r with
  | .error e => .done (.error e)
  | .ok chains => do
    match ← Router.register host r.template chains with
    | .error e => return .error (.invalidTemplate e)
    | .ok () => return .ok ()

def addRoutes (host : Host ε ν κ) (last : String → κ) (c : Config) :
    List RoutePlan → Task (Hub ε ν κ) (Except ConfigError Unit)
  | [] => .done (.ok ())
  | r :: rs => do
    match ← c.addRoute host last r with
    | .error e => return .error e
    | .ok () => addRoutes host last c rs

def start (host : Host ε ν κ) (last : String → κ) (listener : Nat) (c : Config) :
    Task (Hub ε ν κ) (Except ConfigError Unit) := do
  match ← subscribeTopics listener c.topicTemplates with
  | .error e => return .error e
  | .ok () => c.addRoutes host last c.routes

end RouteBus.Config
