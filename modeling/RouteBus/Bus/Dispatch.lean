import RouteBus.Hub

/-!
# Dispatch

Registering listeners and handing messages to them. The group that a message
goes to and its listeners are fixed in one step, before the first of them runs.
-/

namespace RouteBus

inductive Outcome where
  | delivered (topic : String) (listeners : Nat)
  | sourceMissing
  | unmatched (source : String)
  | groupEmpty (topic : String)
  deriving DecidableEq, Repr

namespace Bus

variable {ε ν κ : Type}

def joiningEvent (template : String) : Joining → Event
  | .created groups => .groupCreated template groups
  | .joined listeners => .groupJoined template listeners

def register (template : String) (l : Listener) (hub : Hub ε ν κ) :
    Except TemplateError Unit × Hub ε ν κ :=
  match Topics.subscribe hub.bus.topics template l with
  | .error e => (.error e, hub)
  | .ok (topics, joining) => (.ok (), (hub.withTopics topics).record (joiningEvent template joining))

def subscribe (template : String) (l : Listener) : Task (Hub ε ν κ) (Except TemplateError Unit) :=
  .atomically (register template l)

def addMailbox (hub : Hub ε ν κ) : Hub ε ν κ :=
  { hub with bus := { hub.bus with mailboxes := hub.bus.mailboxes ++ [.empty] } }

def onMailbox (id : Nat) (f : Mailbox → Mailbox) (hub : Hub ε ν κ) : Hub ε ν κ :=
  { hub with bus := { hub.bus with mailboxes := hub.bus.mailboxes.modify id f } }

def onReceive (template : String) : Task (Hub ε ν κ) (Except TemplateError Nat) :=
  .atomically fun hub =>
    let id := hub.bus.mailboxes.length
    match register template (.mailbox id) hub with
    | (.ok (), hub) => (.ok id, addMailbox hub)
    | (.error e, _) => (.error e, hub)

def drain (id : Nat) : Task (Hub ε ν κ) (List Message) :=
  .atomically fun hub => ((hub.bus.mailbox id).waiting, onMailbox id Mailbox.emptied hub)

def dropMailbox (id : Nat) : Task (Hub ε ν κ) Unit := .modify (onMailbox id Mailbox.drop)

def isClosed (host : Host ε ν κ) (hub : Hub ε ν κ) : Listener → Bool
  | .mailbox id => (hub.bus.mailbox id).dropped
  | .external id => host.deaf hub.host id

/-- Records a selection that leaves someone to hear the message, or that does not. -/
def announce (source : String) (s : Selection) (hub : Hub ε ν κ) : Hub ε ν κ :=
  let hub := if s.pruned = 0 then hub else hub.record (.listenersPruned s.topic s.pruned)
  hub.record <|
    if s.listeners.isEmpty then .groupEmpty s.topic source
    else .delivering s.topic source s.listeners.length

/-- Finds the group for a source and takes its closed listeners out for good. -/
def lookup (host : Host ε ν κ) (source : String) (hub : Hub ε ν κ) :
    Option Selection × Hub ε ν κ :=
  match Topics.select (isClosed host hub) source hub.bus.topics with
  | none => (none, hub.record (.sourceUnmatched source))
  | some (selection, topics) => (some selection, announce source selection (hub.withTopics topics))

def hand (host : Host ε ν κ) (m : Message) (l : Listener) : Task (Hub ε ν κ) Unit := do
  Hub.tell (.handed l m)
  match l with
  | .mailbox id => .modify (onMailbox id (Mailbox.put m))
  | .external id => host.hear id m

def handAll (host : Host ε ν κ) (m : Message) : List Listener → Task (Hub ε ν κ) Unit
  | [] => .done ()
  | l :: ls => do
    hand host m l
    handAll host m ls

/-- Hands a message to the listeners of the first group that matches its source. -/
def dispatch (host : Host ε ν κ) (m : Message) : Task (Hub ε ν κ) Outcome :=
  match m.source with
  | none => do
    Hub.tell .sourceMissing
    return .sourceMissing
  | some source => do
    match ← Task.atomically (lookup host source) with
    | none => return .unmatched source
    | some selection =>
      handAll host m selection.listeners
      if selection.listeners.isEmpty then return .groupEmpty selection.topic
      else return .delivered selection.topic selection.listeners.length

def dispatchAll (host : Host ε ν κ) : List Message → Task (Hub ε ν κ) Unit
  | [] => .done ()
  | m :: ms => do
    let _ ← dispatch host m
    dispatchAll host ms

/-- What stands for the URI of a text that came in by hand. -/
def pulledUri : String := "pulled"

def receiveRaw (host : Host ε ν κ) (text : String) : Task (Hub ε ν κ) (Except StreamError Outcome) :=
  match Message.decode text with
  | .error e => .done (.error (.decode pulledUri e))
  | .ok m => .ok <$> dispatch host m

/-- Takes a chunk from the connection on `key`. A chunk that does not decode is lost. -/
def receiveChunk (host : Host ε ν κ) (key text : String) : Task (Hub ε ν κ) Unit :=
  match Message.decode text with
  | .error _ => Hub.tell (.chunkUndecodable key)
  | .ok m => do
    Hub.tell (.chunkReceived key m.formatSource text.utf8ByteSize)
    let _ ← dispatch host m

end Bus

end RouteBus
