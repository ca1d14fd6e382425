import RouteBus.Rehearsal.Session
import RouteBus.Startup

/-!
# Rehearsing a configuration

Starts up as a configuration says, over the transport of a rehearsal, then goes
to locations one by one.
-/

namespace RouteBus.Rehearsal

inductive StartReport where
  | route (template : String) (log : List (Entry Note)) (opened : List String)
  | token (reply : Reply) (log : List (Entry Note)) (location : String) (opened : List String)
  | step (report : Report)

def prepare (host : Host Scene Note Device) : List Step → Task Staging Unit
  | [] => .done ()
  | step :: steps => do
    let _ ← performStep host step
    prepare host steps

def listenToTopics (topics : List String) : Task Staging (Except ConfigError Unit) := do
  let listener ← readScene (·.actors.length)
  onScene fun scene =>
    { scene with actors := scene.actors ++ topics.map fun topic => ⟨topic, .plain, [], false, []⟩ }
  Config.subscribeTopics listener topics

def visit (host : Host Scene Note Device) (token : String) : Task Staging Reply := do
  let location := Unicode.trim token.toList
  if !location.isEmpty then Task.modify (Router.push (String.ofList location))
  performStep host .pump

def reportRoutes (c : Config) (seen : Nat) (hub : Staging) :
    List RoutePlan → List StartReport × Nat × Staging
  | [] => ([], seen, hub)
  | r :: rs =>
    let hub := (play (c.addRoute host .finish r) hub).2
    let report := .route r.template (entriesSince seen hub) hub.bus.connections.keys
    let (reports, seen, hub) := reportRoutes c hub.history.length hub rs
    (report :: reports, seen, hub)

def reportTokens (seen : Nat) (hub : Staging) : List String → List StartReport × Nat × Staging
  | [] => ([], seen, hub)
  | token :: tokens =>
    let (reply, hub) := play (visit host token) hub
    let report := .token reply (entriesSince seen hub) hub.router.location.current
      hub.bus.connections.keys
    let (reports, seen, hub) := reportTokens hub.history.length hub tokens
    (report :: reports, seen, hub)

/-- Starts up over a scene that `setup` has prepared. -/
def rehearseStartup (c : Config) (setup : List Step) (tokens : List String) (after : List Step) :
    List StartReport :=
  let start : Task Staging Unit := do
    prepare host setup
    let _ ← listenToTopics c.topicTemplates
  let hub := playTurns start (.new c.name c.initial .new)
  let (routes, seen, hub) := reportRoutes c 0 hub.2 c.routes
  let (visits, seen, hub) := reportTokens seen hub tokens
  routes ++ visits ++ (playAll seen hub after).map .step

end RouteBus.Rehearsal
