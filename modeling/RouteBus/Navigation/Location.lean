/-!
# The location

The current location token and the queue of its changes. A change is queued as
long as the queue is neither closed nor without a receiver.
-/

namespace RouteBus

structure Navigation where
  previous : String
  current : String
  deriving DecidableEq, Repr

structure Location where
  current : String
  /-- Changes not yet received, the oldest first. -/
  queue : List Navigation
  closed : Bool
  received : Bool
  deriving DecidableEq, Repr

/-- A location is written with at most one leading `#`, which is not part of it. -/
def stripMarker (text : String) : String :=
  match text.toList with
  | '#' :: rest => String.ofList rest
  | _ => text

namespace Location

def new (initial : String) : Location := ⟨stripMarker initial, [], false, true⟩

def notifies (l : Location) : Bool := !l.closed && l.received

def push (l : Location) (text : String) : Location :=
  let current := stripMarker text
  { l with
    current
    queue := if l.notifies then l.queue ++ [⟨l.current, current⟩] else l.queue }

/-- Ends the queue; what is queued can still be received. -/
def close (l : Location) : Location := { l with closed := true }

/-- Gives up receiving; what is queued is lost. -/
def dropReceiver (l : Location) : Location := { l with queue := [], received := false }

def next? (l : Location) : Option (Navigation × Location) :=
  match l.queue with
  | [] => none
  | n :: queue => some (n, { l with queue })

end Location

end RouteBus
