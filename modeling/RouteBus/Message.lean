import RouteBus.Json.Decoder

/-!
# Messages

A message is a JSON payload with the topic it comes from. The topic, its
source, is read from the string member `src` of the payload and written back
there only where the payload has no such member.
-/

namespace RouteBus

structure Message where
  source : Option String
  payload : Json
  deriving DecidableEq, Repr

namespace Message

def sourceKey : String := "src"

def ofPayload (payload : Json) : Message where
  source := (payload.get? sourceKey).bind Json.asString?
  payload := payload

/-- The payload with the source put back where it has no member for it. -/
def encode (m : Message) : Json :=
  match m.source, m.payload with
  | some source, .obj members =>
    match member? members sourceKey with
    | some _ => .obj members
    | none => .obj (putMember sourceKey (.str source) members)
  | _, payload => payload

def decode (text : String) : Except Undecodable Message := ofPayload <$> Json.decode text

/-- Decodes an array of messages; one bad element spoils it all. -/
def decodeBatch (text : String) : Except Undecodable (List Message) :=
  List.map ofPayload <$> Json.decodeArray text

def formatSource (m : Message) : String := m.source.getD "none"

end Message

end RouteBus
