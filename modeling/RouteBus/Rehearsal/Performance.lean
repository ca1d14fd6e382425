import RouteBus.Navigation.Router
import RouteBus.Rehearsal.Scene

/-!
# Performing steps

What each step does, and the host that runs the scripts of listeners and routes.
Scripts run in scripts only to a limited depth, so a host is built from the host
of the depth below.
-/

namespace RouteBus.Rehearsal

-- ---------------------------------------------------------------------------
-- On the scene
-- ---------------------------------------------------------------------------

def onScene (f : Scene → Scene) : Task Staging Unit :=
  .modify fun hub => { hub with host := f hub.host }

def readScene {α : Type} (f : Scene → α) : Task Staging α := .read fun hub => f hub.host

def note (note : Note) : Task Staging Unit := .modify (Hub.note note)

/-- The entries behind the first `seen`, the oldest first. -/
def entriesSince (seen : Nat) (hub : Staging) : List (Entry Note) :=
  (hub.history.take (hub.history.length - seen)).reverse

def useWire {α : Type} (f : Wire → α × Wire) (hub : Staging) : α × Staging :=
  let (value, wire) := f hub.host.wire
  (value, { hub with host := { hub.host with wire } })

def onWire {α : Type} (f : Wire → α × Wire) : Task Staging α := .atomically (useWire f)

-- ---------------------------------------------------------------------------
-- The host
-- ---------------------------------------------------------------------------

def deliverAll (deliver : String → Task Staging Unit) : List String → Task Staging Unit
  | [] => .done ()
  | chunk :: chunks => do
    deliver chunk
    deliverAll deliver chunks

def connect (uri : String) (deliver : String → Task Staging Unit) :
    Task Staging (Except TransportFailure Unit) := do
  note (.connecting uri)
  Task.pause (← readScene (·.connectYields))
  match ← onWire (Wire.connect uri) with
  | .error failure => return .error failure
  | .ok () =>
    deliverAll deliver (← readScene fun scene => (scene.eager.lookup uri).getD [])
    return .ok ()

def request (uri : String) : Task Staging (Except TransportFailure String) := do
  note (.requesting uri)
  onWire (Wire.request uri)

def disconnect (handle : Handle) : Task Staging Unit := do
  note (.disconnecting handle.key)
  onWire fun wire => ((), wire.disconnect handle.key)

abbrev ScriptRunner := String → List Step → Task Staging Unit

def hear (runScript : ScriptRunner) (listener : Nat) (m : Message) : Task Staging Unit := do
  match ← readScene (·.actors[listener]?) with
  | none => return ()
  | some actor =>
    match actor.manner with
    | .recording => onScene (·.onActor listener fun a => { a with heard := a.heard ++ [m] })
    | .plain => note (.received actor.id m)
    | .scripted =>
      note (.received actor.id m)
      runScript actor.id actor.script

def routeScript : String := "route"

def performDevice (runScript : ScriptRunner) : Device → Params → Task Staging Params
  | .record id, params => do
    onScene (·.addRecord id params.values)
    return params
  | .replace params, _ => return params
  | .script steps, params => do
    runScript routeScript steps
    return params
  | .log label, params => do
    note (.logged label params)
    return params
  | .logPausing label yields, params => do
    note (.started label params)
    Task.pause yields
    note (.ended label)
    return params
  | .finish route, params => do
    note (.finished route params.values)
    return params

def hostWith (runScript : ScriptRunner) : Host Scene Note Device where
  connect := connect
  request := request
  disconnect := disconnect
  hear := hear runScript
  deaf scene listener := (scene.actors[listener]?).any Actor.closed
  perform := performDevice runScript

-- ---------------------------------------------------------------------------
-- Steps
-- ---------------------------------------------------------------------------

def templateReply : Except TemplateError Reply → Reply
  | .ok reply => reply
  | .error e => .templateError e

def streamReply : Except StreamError Reply → Reply
  | .ok reply => reply
  | .error e => .streamError e

/-- Puts a new receiver where its steps find it. One that is replaced is dropped. -/
def keepReceiver (id : String) (sink : Bool) (receiver : Receiver) : Task Staging Unit := do
  if sink then
    onScene fun scene => { scene with sinks := scene.sinks ++ [(id, receiver)] }
    note (.sinkStarted receiver.mailbox)
  else
    let replaced ← readScene (·.receivers.lookup id)
    onScene fun scene => { scene with receivers := Scene.assign id receiver scene.receivers }
    match replaced with
    | none => return ()
    | some old => Bus.dropMailbox old.mailbox

def receive (template id : String) (model : Option String) (sink : Bool) : Task Staging Reply := do
  match ← Bus.onReceive template with
  | .error e => return .templateError e
  | .ok mailbox =>
    keepReceiver id sink ⟨mailbox, model⟩
    return .nothing

def recorded (id : String) (scene : Scene) : Reply :=
  match scene.lastActor? id .recording, scene.records.lookup id with
  | some (_, actor), _ => .heard actor.heard
  | none, some calls => .calls calls
  | none, none => .nothing

def closeListener (id : String) : Task Staging Reply := do
  match ← readScene (·.lastActor? id .scripted) with
  | none => return .nothing
  | some (index, actor) =>
    onScene (·.onActor index fun a => { a with closed := true })
    return .flag !actor.closed

def buildRoute (spec : List RouteSpec) :
    Task Staging (Except TemplateError (List (RouteChain Device))) := do
  let (chains, records) := (buildAll spec).run.run []
  onScene (·.startRecords records)
  return chains

def registerRoute (host : Host Scene Note Device) (id template : String)
    (chains : List (RouteChain Device)) : Task Staging Reply := do
  match ← Router.register host template chains with
  | .error e => return .templateError e
  | .ok () =>
    onScene fun scene => { scene with routes := Scene.assign id template scene.routes }
    return .text template

def addRoute (host : Host Scene Note Device) (id template : String) (spec : List RouteSpec) :
    Task Staging Reply := do
  match ← buildRoute spec with
  | .error e => return .templateError e
  | .ok chains => registerRoute host id template chains

/-- Adds to a route that is kept by name. Its steps are built first; while they are
being registered the name keeps nothing. -/
def extendRoute (host : Host Scene Note Device) (id : String) (spec : List RouteSpec) :
    Task Staging Reply := do
  match ← buildRoute spec with
  | .error e => return .templateError e
  | .ok chains =>
    match ← readScene (·.routes.lookup id) with
    | none => return .text "no chain"
    | some template =>
      onScene fun scene => { scene with routes := scene.routes.filter (·.1 ≠ id) }
      registerRoute host id template chains

def pumpLimit : Nat := 12

/-- Takes the oldest navigation out of the queue; none if the queue itself is taken. -/
def receiveFree (hub : Staging) : Option Router.Arrival × Staging :=
  if hub.host.navigationsFree then
    let (arrival, hub) := Router.receive hub
    (some arrival, hub)
  else (none, hub)

/-- Handles at most `limit` navigations that are queued. What runs on one of them may
handle the next ones itself; if it takes the queue, nothing is told of those handled. -/
def pump (host : Host Scene Note Device) :
    Nat → Task Staging (Option (List (Navigation × Nat) × Bool))
  | 0 => .done (some ([], false))
  | limit + 1 => do
    match ← Task.atomically receiveFree with
    | none => return none
    | some .nothing => return some ([], false)
    | some .ended => return some ([], true)
    | some (.navigation navigation) =>
      let fired ← Router.onNavigation host navigation
      let later ← pump host limit
      return later.map fun (handled, ended) => ((navigation, fired) :: handled, ended)

def noNavigations : Reply := .text "no events"

/-- Takes the queue of navigations for good; false if it is taken already. -/
def takeNavigations : Task Staging Bool :=
  .atomically fun hub =>
    (hub.host.navigationsFree, { hub with host := { hub.host with navigationsFree := false } })

def closeLocation : Task Staging Unit :=
  .modify fun hub => hub.withLocation hub.router.location.close

def dropNavigations : Task Staging Unit :=
  .modify fun hub => hub.withLocation hub.router.location.dropReceiver

/-- Up to how many tasks go in their own order in each turn. -/
def orderedLimit : Nat := 30

/-- Runs tasks side by side. Many of them turn their order round after each turn. -/
def join (tasks : List (Task Staging Reply)) : Task Staging (List Reply) :=
  if tasks.length ≤ orderedLimit then Task.joinAll tasks else Task.joinAlternating tasks

mutual

def performStep (host : Host Scene Note Device) : Step → Task Staging Reply
  | .subscribe template id manner script => do
    let listener ← readScene (·.actors.length)
    onScene (·.addActor ⟨id, manner, script, false, []⟩)
    (templateReply <| Except.map (fun _ => .nothing) ·) <$> Bus.subscribe template (.external listener)
  | .closeListener id => closeListener id
  | .recorded id => readScene (recorded id)
  | .onReceive template id sink => receive template id none sink
  | .onModel model id sink => receive modelTopic id (some model) sink
  | .drain id => do
    match ← readScene (·.receivers.lookup id) with
    | none => return .nothing
    | some receiver => return .items (receiver.items (← Bus.drain receiver.mailbox))
  | .drop id => do
    match ← readScene (·.receivers.lookup id) with
    | none => return .flag false
    | some receiver =>
      onScene fun scene => { scene with receivers := scene.receivers.filter (·.1 ≠ id) }
      Bus.dropMailbox receiver.mailbox
      return .flag true
  | .dispatch m => .outcome <$> Bus.dispatch host m
  | .receiveRaw text => (streamReply <| Except.map .outcome ·) <$> Bus.receiveRaw host text
  | .topics => Task.read fun hub => .texts hub.bus.topicList
  | .openConnections => Task.read fun hub => .texts hub.bus.connections.keys
  | .openStream template args =>
    (streamReply <| Except.map .flag ·) <$> Bus.openStream host template args
  | .closeStreams template args =>
    (streamReply <| Except.map .texts ·) <$> Bus.closeStreams host template args
  | .fetch template args => (streamReply <| Except.map .count ·) <$> Bus.fetch host template args
  | .isConnected target => Task.read fun hub => .flag (hub.bus.connections.isConnected target)
  | .join steps => .replies <$> join (stepTasks host steps)
  | .respond uri answer => do
    onWire fun wire => ((), wire.respond uri answer)
    return .nothing
  | .refuse uri => do
    onWire fun wire => ((), wire.refuse uri)
    return .nothing
  | .eager uri chunks => do
    onScene fun scene => { scene with eager := Scene.assign uri chunks scene.eager }
    return .nothing
  | .connectYields count => do
    onScene fun scene => { scene with connectYields := count }
    return .nothing
  | .push uri data => do
    if ← readScene (decide <| uri ∈ ·.wire.live) then
      Bus.receiveChunk host uri data
      return .flag true
    else return .flag false
  | .transport => readScene fun scene => .wire scene.wire
  | .route template id spec => addRoute host id template spec
  | .addRoute id spec => extendRoute host id spec
  | .setLocation location => do
    Task.modify (Router.push location)
    return .nothing
  | .go template args => (templateReply <| Except.map .text ·) <$> Router.go template args
  | .navigate navigation => .count <$> Router.onNavigation host navigation
  | .pump => do
    match ← pump host pumpLimit with
    | none => return noNavigations
    | some (handled, ended) => return .navigations handled ended
  | .listen => do
    closeLocation
    if ← takeNavigations then
      Router.listen host ((← Task.read (·.router.location.queue.length)) + 1)
      dropNavigations
      return .nothing
    else return noNavigations
  | .closeLocation => do
    closeLocation
    return .nothing
  | .dropNavigations => do
    let held ← takeNavigations
    if held then dropNavigations
    return .flag held
  | .location => Task.read fun hub => .text hub.router.location.current
  | .currentParams template => Task.read fun hub => templateReply <|
      (hub.router.currentParams template).map fun
        | none => .nothing
        | some params => .params params
  | .isCurrent template => Task.read fun hub => templateReply <|
      (hub.router.isCurrent template).map .flag
  | .routeCount => Task.read fun hub => .count hub.router.routes.length
  | .names => Task.read fun hub => .texts [hub.bus.name, hub.router.name]

def stepTasks (host : Host Scene Note Device) : List Step → List (Task Staging Reply)
  | [] => []
  | step :: steps => performStep host step :: stepTasks host steps

end

-- ---------------------------------------------------------------------------
-- Scripts
-- ---------------------------------------------------------------------------

def enterScript (id : String) (hub : Staging) : Bool × Staging :=
  if scriptLimit ≤ hub.host.depth then (false, hub.note (.tooDeep id))
  else (true, { hub with host := { hub.host with depth := hub.host.depth + 1 } })

def performAll (host : Host Scene Note Device) (id : String) : List Step → Task Staging Unit
  | [] => .done ()
  | step :: steps => do
    note (.did id (← performStep host step))
    performAll host id steps

def runScript (host : Host Scene Note Device) (id : String) (steps : List Step) :
    Task Staging Unit := do
  if ← Task.atomically (enterScript id) then
    performAll host id steps
    onScene fun scene => { scene with depth := scene.depth - 1 }

/-- The host whose scripts may nest `depth` deep. -/
def hostOfDepth : Nat → Host Scene Note Device
  | 0 => hostWith fun id _ => note (.tooDeep id)
  | depth + 1 => hostWith (runScript (hostOfDepth depth))

def host : Host Scene Note Device := hostOfDepth scriptLimit

end RouteBus.Rehearsal
