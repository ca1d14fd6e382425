import RouteBus.Bus.Topics
import RouteBus.Bus.Connections
import RouteBus.Message

/-!
# The bus

The state of a stream bus: topic groups, connections, and the mailboxes of the
sequences that receive from it.
-/

namespace RouteBus

/-- Messages for one receiving sequence. A dropped mailbox takes no more of them. -/
structure Mailbox where
  /-- The oldest first. -/
  waiting : List Message
  dropped : Bool
  deriving DecidableEq, Repr

structure Bus where
  name : String
  topics : List Group
  connections : Connections
  /-- A mailbox is known by its position. -/
  mailboxes : List Mailbox
  /-- How many connections were made so far. -/
  handlesMade : Nat
  deriving DecidableEq, Repr

namespace Mailbox

def empty : Mailbox := ⟨[], false⟩

def put (m : Message) (box : Mailbox) : Mailbox :=
  if box.dropped then box else { box with waiting := box.waiting ++ [m] }

def emptied (box : Mailbox) : Mailbox := { box with waiting := [] }

def drop (_ : Mailbox) : Mailbox := ⟨[], true⟩

end Mailbox

namespace Bus

def new (name : String) : Bus := ⟨name, [], .empty, [], 0⟩

/-- Templates of the groups, in the order in which a message tries them. -/
def topicList (bus : Bus) : List String := bus.topics.map (·.template.raw)

def mailbox (bus : Bus) (id : Nat) : Mailbox := bus.mailboxes[id]?.getD .empty

end Bus

def modelTopic : String := "/template"

def Message.modelData? (name : String) (m : Message) : Option Json :=
  if (m.payload.get? "name").bind Json.asString? = some name then
    some ((m.payload.get? "data").getD .null)
  else none

end RouteBus
