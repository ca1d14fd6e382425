import RouteBus.Json.Basic
import RouteBus.Json5.Decoder
import RouteBus.Template

/-!
# Configuration

A configuration names a streamer, the location it starts at, the root of its
transport, its endpoints, and its routes with the endpoints that each of them
closes, streams and fetches. What loads has been checked: templates can be read,
and routes name only endpoints that there are.
-/

namespace RouteBus

/-- A configured route: the template of its locations, and names of endpoints. -/
structure RoutePlan where
  template : String
  closes : List String
  streams : List String
  fetches : List String
  deriving DecidableEq, Repr

structure Config where
  name : String
  initial : String
  root : String
  /-- Templates by name, in ascending order of the names. -/
  endpoints : List (String × String)
  routes : List RoutePlan
  deriving DecidableEq, Repr

inductive ConfigError where
  /-- The text is not JSON5 or does not have the shape of a configuration. -/
  | malformed
  | unknownEndpoint (route endpoint : String)
  | invalidTemplate (error : TemplateError)
  deriving DecidableEq, Repr

namespace ConfigError

def message : ConfigError → String
  | .malformed => "unable to parse config file"
  | .unknownEndpoint route endpoint =>
    s!"route '{route}' references unknown endpoint '{endpoint}'"
  | .invalidTemplate error => s!"invalid template: {error.message}"

end ConfigError

namespace RoutePlan

def endpointNames (r : RoutePlan) : List String := r.closes ++ r.streams ++ r.fetches

end RoutePlan

namespace Config

-- ---------------------------------------------------------------------------
-- Shape
-- ---------------------------------------------------------------------------

def required {α : Type} (read : Json5 → Option α) (field : Option Json5) : Option α := field.bind read

/-- A field that may be missing. What is there has to be right. -/
def defaulted {α : Type} (default : α) (read : Json5 → Option α) : Option Json5 → Option α
  | none => some default
  | some field => read field

def readNames : Json5 → Option (List String) := Json5.listOf? Json5.asText?

def readSingle (name : String) (read : Option Json5 → Option String) (j : Json5) : Option String := do
  match ← j.fields? [name] with
  | [field] => read field
  | _ => none

def readEndpoints (j : Json5) : Option (List (String × String)) := do
  let endpoints ← (← j.members?).mapM fun (name, value) => (name, ·) <$> value.asText?
  return endpoints.foldl (fun sorted (name, template) => putMember name template sorted) []

def readRoute (j : Json5) : Option RoutePlan := do
  match ← j.fields? ["when", "close", "stream", "fetch"] with
  | [template, closes, streams, fetches] =>
    return {
      template := ← required Json5.asText? template
      closes := ← defaulted [] readNames closes
      streams := ← defaulted [] readNames streams
      fetches := ← defaulted [] readNames fetches }
  | _ => none

def ofJson5? (j : Json5) : Option Config := do
  match ← j.fields? ["streamer", "location", "transport", "endpoints", "routes"] with
  | [streamer, location, transport, endpoints, routes] =>
    return {
      name := ← required (readSingle "name" (required Json5.asText?)) streamer
      initial := ← defaulted "" (readSingle "initial" (defaulted "" Json5.asText?)) location
      root := ← required (readSingle "root" (required Json5.asText?)) transport
      endpoints := ← required readEndpoints endpoints
      routes := ← defaulted [] (Json5.listOf? readRoute) routes }
  | _ => none

-- ---------------------------------------------------------------------------
-- Endpoints
-- ---------------------------------------------------------------------------

def endpoint? (c : Config) (name : String) : Option String := member? c.endpoints name

/-- Templates that messages come from: those that routes stream or fetch, each once,
where it is first named. -/
def topicTemplates (c : Config) : List String :=
  ((c.routes.flatMap fun r => r.streams ++ r.fetches).filterMap c.endpoint?).eraseDups

-- ---------------------------------------------------------------------------
-- Checks
-- ---------------------------------------------------------------------------

def checkTemplate (text : String) : Except ConfigError Unit :=
  match Template.parse text with
  | .ok _ => .ok ()
  | .error e => .error (.invalidTemplate e)

/-- Checks the template of a route first and the names of its endpoints after it. -/
def checkRoute (c : Config) (r : RoutePlan) : Except ConfigError Unit := do
  checkTemplate r.template
  match r.endpointNames.find? fun name => (c.endpoint? name).isNone with
  | none => return ()
  | some name => throw (.unknownEndpoint r.template name)

/-- Checks endpoints in the order of their names, then routes as they are written. -/
def validate (c : Config) : Except ConfigError Unit := do
  c.endpoints.forM fun (_, template) => checkTemplate template
  c.routes.forM c.checkRoute

def parse (text : String) : Except ConfigError Config :=
  match Json5.decode? text >>= ofJson5? with
  | none => .error .malformed
  | some c => do
    c.validate
    return c

end Config

end RouteBus
