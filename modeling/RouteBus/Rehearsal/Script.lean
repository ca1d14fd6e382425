import RouteBus.Navigation.Route

/-!
# Scripts

The steps that a rehearsal is written in. A listener or a route may carry a
script of its own, so steps and route steps refer to each other.
-/

namespace RouteBus.Rehearsal

inductive Arg where
  | at (index : Nat)
  | named (name : String)
  | literal (text : String)
  deriving DecidableEq, Repr

namespace Arg

/-- Reads `$` and digits as a position, `$` and anything else as a name. -/
def parse (text : String) : Arg :=
  match text.toList with
  | '$' :: rest =>
    if !rest.isEmpty && rest.all Char.isDigit then
      .at (rest.foldl (fun n c => n * 10 + (c.toNat - '0'.toNat)) 0)
    else .named (String.ofList rest)
  | _ => .literal text

def value (p : Params) : Arg → String
  | .at index => p.values[index]?.getD ""
  | .named name => (p.get? name).getD ""
  | .literal text => text

def values (args : Option (List Arg)) (p : Params) : List String :=
  match args with
  | none => p.values
  | some args => args.map (value p)

end Arg

inductive Manner where
  | plain
  | recording
  | scripted
  deriving DecidableEq, Repr

mutual

inductive Step where
  | subscribe (template id : String) (manner : Manner) (script : List Step)
  | closeListener (id : String)
  | recorded (id : String)
  | onReceive (template id : String) (sink : Bool)
  | onModel (model id : String) (sink : Bool)
  | drain (id : String)
  | drop (id : String)
  | dispatch (message : Message)
  | receiveRaw (text : String)
  | topics
  | openConnections
  | openStream (template : String) (args : List String)
  | closeStreams (template : String) (args : List String)
  | fetch (template : String) (args : List String)
  | isConnected (target : String)
  | join (steps : List Step)
  | respond (uri : String) (answer : Except String String)
  | refuse (uri : String)
  /-- Chunks that a connection to `uri` delivers before the connect has ended. -/
  | eager (uri : String) (chunks : List String)
  | connectYields (count : Nat)
  | push (uri data : String)
  | transport
  | route (template id : String) (spec : List RouteSpec)
  /-- Registers another route under the template of the one kept under `id`. -/
  | addRoute (id : String) (spec : List RouteSpec)
  | setLocation (location : String)
  | go (template : String) (args : List String)
  | navigate (navigation : Navigation)
  /-- Handles queued navigations as they come, a limited number of them. -/
  | pump
  /-- Closes the location and handles navigations until they have ended. -/
  | listen
  | closeLocation
  | dropNavigations
  | location
  | currentParams (template : String)
  | isCurrent (template : String)
  | routeCount
  | names

inductive RouteSpec where
  | inOrder (specs : List RouteSpec)
  | together (specs : List RouteSpec)
  | bus (operation : Operation) (template : String) (args : Option (List Arg))
  | go (template : String) (args : Option (List Arg))
  | record (id : String)
  | replace (params : Params)
  | script (steps : List Step)
  | log (label : String)
  | logPausing (label : String) (yields : Nat)

end

instance : Inhabited Step := ⟨.topics⟩
instance : Inhabited RouteSpec := ⟨.inOrder []⟩

inductive Device where
  | record (id : String)
  | replace (params : Params)
  | script (steps : List Step)
  | log (label : String)
  | logPausing (label : String) (yields : Nat)
  | finish (route : String)

-- ---------------------------------------------------------------------------
-- Building routes
-- ---------------------------------------------------------------------------

/-- The records that were asked for so far, and what was built or why it was not. -/
abbrev Build := ExceptT TemplateError (StateM (List String))

mutual

def RouteSpec.build : RouteSpec → Build (RouteChain Device)
  | .inOrder specs => Chain.sequence <$> buildAll specs
  | .together specs => Chain.group <$> buildAll specs
  | .bus operation template args => do
    return .leaf (← RouteStep.busAt operation template (Arg.values args))
  | .go template args => do
    return .leaf (← RouteStep.goTo template (Arg.values args))
  | .record id => do
    modify (id :: ·)
    return .leaf (.custom (.record id))
  | .replace params => return .leaf (.custom (.replace params))
  | .script steps => return .leaf (.custom (.script steps))
  | .log label => return .leaf (.custom (.log label))
  | .logPausing label yields => return .leaf (.custom (.logPausing label yields))

def buildAll : List RouteSpec → Build (List (RouteChain Device))
  | [] => return []
  | spec :: specs => do
    let chain ← spec.build
    return chain :: (← buildAll specs)

end

end RouteBus.Rehearsal
