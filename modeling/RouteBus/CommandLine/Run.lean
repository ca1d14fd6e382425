import RouteBus.CommandLine.Arguments
import RouteBus.Files.Content
import RouteBus.Json.Printer
import RouteBus.Startup
import RouteBus.Text.Quoted

/-!
# Running a configuration over files

The whole run of the program as a function of its arguments, its standard input
and the files that it reads. A file that is not known yet is asked for: the run
then has to be made again with what is found there.
-/

namespace RouteBus.CommandLine

inductive LogLine where
  | started
  | messageReceived (topic : String) (payload : Json)
  | chainFinished (route : String) (params : List String)
  | tokenUnreadable
  | stopped (location : String) (opened : List String)
  deriving DecidableEq, Repr

def LogLine.text : LogLine → String
  | .started => "Started configurable-streamer"
  | .messageReceived topic payload =>
    s!"message received topic={Text.quote topic} payload={payload.text}"
  | .chainFinished route params =>
    s!"route chain finished route={Text.quote route} params={Text.quoteList params}"
  | .tokenUnreadable => "unable to read navigation token"
  | .stopped location opened =>
    s!"configurable-streamer stopped location={Text.quote location} open={Text.quoteList opened}"

inductive Ending where
  | finished
  | helped
  | misused
  | unreadableConfig (path : String)
  | refusedConfig (error : ConfigError)
  deriving DecidableEq, Repr

namespace Ending

def exitCode : Ending → Nat
  | .finished | .helped => 0
  | .misused => 2
  | .unreadableConfig _ | .refusedConfig _ => 1

def error? : Ending → Option String
  | .finished | .helped | .misused => none
  | .unreadableConfig path => some s!"unable to read config file {path}"
  | .refusedConfig error => some error.message

end Ending

abbrev KnownFiles := String → Option (Except Files.Fault Files.Bytes)

inductive Note where
  | line (line : LogLine)
  /-- The file at `path` is not known. -/
  | wanted (path : String)

/-- The hub of a run. The host has no state, and its one route step ends the route that it names. -/
abbrev Running := Hub Unit Note String

-- ---------------------------------------------------------------------------
-- The host
-- ---------------------------------------------------------------------------

def log (line : LogLine) : Task Running Unit := .modify (Hub.note (.line line))

def readFile (files : KnownFiles) (path : String) : Task Running (Except Files.Fault Files.Bytes) :=
  match Files.checkPath path with
  | .error fault => .done (.error fault)
  | .ok () =>
    match files path with
    | some content => .done content
    | none => do
      Task.modify (Hub.note (.wanted path))
      return .error .missing

def replay (deliver : String → Task Running Unit) : List String → Task Running Unit
  | [] => .done ()
  | chunk :: chunks => do
    deliver chunk
    replay deliver chunks

/-- Serves streams and requests from files under `root`. Listeners log what they
hear, each for the topic at its position. -/
def host (files : KnownFiles) (root : String) (topics : List String) : Host Unit Note String where
  connect uri deliver :=
    match Files.pathFor root uri Files.streamExtension with
    | .error failure => .done (.error failure)
    | .ok path => do
      match Files.chunksOf uri path (← readFile files path) with
      | .error failure => return .error failure
      | .ok chunks =>
        replay deliver chunks
        return .ok ()
  request uri :=
    match Files.pathFor root uri Files.requestExtension with
    | .error failure => .done (.error failure)
    | .ok path => Files.bodyOf uri path <$> readFile files path
  disconnect _ := .done ()
  hear listener m :=
    match topics[listener]? with
    | none => .done ()
    | some topic => log (.messageReceived topic m.payload)
  deaf _ _ := false
  perform route params := do
    log (.chainFinished route params.values)
    return params

-- ---------------------------------------------------------------------------
-- The run
-- ---------------------------------------------------------------------------

def visitAll : List String → Task Running Unit
  | [] => .done ()
  | line :: lines => do
    let location := Unicode.trim line.toList
    if !location.isEmpty then Task.modify (Router.push (String.ofList location))
    visitAll lines

/-- Starts up, goes where the standard input says, and ends with it. -/
def serve (files : KnownFiles) (c : Config) (stdin : Files.Bytes) :
    Task Running (Except ConfigError Unit) := do
  let host := host files c.root c.topicTemplates
  match ← c.start host id 0 with
  | .error e => return .error e
  | .ok () =>
    let (lines, broken) := Files.lines stdin
    visitAll lines
    if broken then log .tokenUnreadable
    Task.modify fun hub => hub.withLocation hub.router.location.close
    Router.listen host ((← Task.read (·.router.location.queue.length)) + 1)
    let hub ← Task.read id
    log (.stopped hub.router.location.current hub.bus.connections.keys)
    return .ok ()

structure Report where
  ending : Ending
  lines : List LogLine
  /-- Files that were needed and not known. -/
  wanted : List String

def report (result : Except ConfigError Unit) (hub : Running) : Report :=
  let notes := hub.history.reverse
  { ending := match result with
      | .ok () => .finished
      | .error e => .refusedConfig e
    lines := .started :: notes.filterMap fun
      | .note (.line line) => some line
      | _ => none
    wanted := notes.filterMap fun
      | .note (.wanted path) => some path
      | _ => none }

def endEarly (ending : Ending) : Report := ⟨ending, [.started], []⟩

def runConfig (files : KnownFiles) (stdin : Files.Bytes) (path : String) : Report :=
  match Files.checkPath path, files path with
  | .ok (), none => { endEarly (.unreadableConfig path) with wanted := [path] }
  | .error _, _ | _, some (.error _) => endEarly (.unreadableConfig path)
  | .ok (), some (.ok bytes) =>
    match Files.textOf bytes with
    | .error _ => endEarly (.unreadableConfig path)
    | .ok text =>
      match Config.parse text with
      | .error e => endEarly (.refusedConfig e)
      | .ok c =>
        let (result, hub) := (serve files c stdin).run (.new c.name c.initial ())
        report result hub

def run (files : KnownFiles) (args : List String) (stdin : Files.Bytes) : Report :=
  match parse args with
  | none => endEarly .misused
  | some .help => endEarly .helped
  | some (.run path) => runConfig files stdin path

end RouteBus.CommandLine
