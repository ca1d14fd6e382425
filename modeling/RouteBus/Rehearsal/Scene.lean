import RouteBus.Hub
import RouteBus.Bus.Dispatch
import RouteBus.Rehearsal.Script
import RouteBus.Rehearsal.Wire

/-!
# The scene

The state of the host of a rehearsal: its transport, the listeners and receivers
that the steps know by name, and how deep scripts are nested at the moment.
-/

namespace RouteBus.Rehearsal

structure Actor where
  id : String
  manner : Manner
  script : List Step
  closed : Bool
  heard : List Message

structure Receiver where
  mailbox : Nat
  model : Option String

inductive Item where
  | message (message : Message)
  | data (data : Json)

def Receiver.items (r : Receiver) (messages : List Message) : List Item :=
  match r.model with
  | none => messages.map .message
  | some name => messages.filterMap fun m => (m.modelData? name).map .data

def scriptLimit : Nat := 8

structure Scene where
  wire : Wire
  /-- Chunks by URI, the latest setting first. -/
  eager : List (String × List String)
  connectYields : Nat
  /-- A listener is known to the bus by its position. -/
  actors : List Actor
  receivers : List (String × Receiver)
  /-- Receivers that log what they get when the steps are suspended or at their end. -/
  sinks : List (String × Receiver)
  /-- How many entries of the history the sinks have caught up with: those of earlier turns. -/
  settled : Nat
  records : List (String × List (List String))
  routes : List (String × String)
  depth : Nat
  /-- False once the queue of navigations is taken for good. -/
  navigationsFree : Bool

namespace Scene

def new : Scene := ⟨.new, [], 0, [], [], [], 0, [], [], 0, true⟩

def assign {α : Type} (id : String) (value : α) (entries : List (String × α)) : List (String × α) :=
  (id, value) :: entries.filter (·.1 ≠ id)

def addActor (actor : Actor) (s : Scene) : Scene := { s with actors := s.actors ++ [actor] }

def onActor (index : Nat) (f : Actor → Actor) (s : Scene) : Scene :=
  { s with actors := s.actors.modify index f }

def lastActor? (id : String) (manner : Manner) (s : Scene) : Option (Nat × Actor) :=
  (s.actors.zipIdx.reverse.find? fun (actor, _) => actor.id = id ∧ actor.manner = manner).map
    fun (actor, index) => (index, actor)

def startRecords (ids : List String) (s : Scene) : Scene :=
  { s with records := ids.foldl (fun records id =>
      if (records.lookup id).isSome then records else (id, []) :: records) s.records }

def addRecord (id : String) (values : List String) (s : Scene) : Scene :=
  { s with records := assign id ((s.records.lookup id).getD [] ++ [values]) s.records }

end Scene

-- ---------------------------------------------------------------------------
-- What a rehearsal shows
-- ---------------------------------------------------------------------------

inductive Reply where
  | nothing
  | flag (value : Bool)
  | count (value : Nat)
  | text (value : String)
  | texts (values : List String)
  | templateError (error : TemplateError)
  | streamError (error : StreamError)
  | outcome (outcome : Outcome)
  | items (items : List Item)
  | heard (messages : List Message)
  | calls (values : List (List String))
  | params (params : Params)
  | wire (wire : Wire)
  /-- Navigations with the number of routes that each ran, and whether there will be no more. -/
  | navigations (handled : List (Navigation × Nat)) (ended : Bool)
  | replies (replies : List Reply)

inductive Note where
  | received (listener : String) (message : Message)
  | did (script : String) (reply : Reply)
  | tooDeep (script : String)
  | sinkStarted (mailbox : Nat)
  | sank (receiver : String) (item : Item)
  | connecting (uri : String)
  | requesting (uri : String)
  | disconnecting (uri : String)
  | logged (label : String) (params : Params)
  | started (label : String) (params : Params)
  | ended (label : String)
  | finished (route : String) (values : List String)

abbrev Staging := Hub Scene Note Device

end RouteBus.Rehearsal
