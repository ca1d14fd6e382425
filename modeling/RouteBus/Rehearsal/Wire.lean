import RouteBus.Bus.Failure

/-!
# An in-memory transport

It connects to every URI that is not refused, keeps at most one live connection
per URI, and answers requests with what was registered for them.
-/

namespace RouteBus.Rehearsal

structure Wire where
  /-- URIs with a live connection, in ascending order, each once. -/
  live : List String
  /-- Connects that succeeded, the first first; likewise closes and requests. -/
  connects : List String
  closes : List String
  requests : List String
  /-- Bodies and reasons of failure by URI, the latest first. -/
  responses : List (String × Except String String)
  refused : List String

namespace Wire

def new : Wire := ⟨[], [], [], [], [], []⟩

def insertUri (uri : String) : List String → List String
  | [] => [uri]
  | x :: xs =>
    if uri = x then x :: xs else if uri < x then uri :: x :: xs else x :: insertUri uri xs

def connect (uri : String) (w : Wire) : Except TransportFailure Unit × Wire :=
  if uri ∈ w.refused then (.error ⟨uri, "connection refused"⟩, w)
  else (.ok (), { w with connects := w.connects ++ [uri], live := insertUri uri w.live })

/-- Ends the live connection on a URI, whichever it is. -/
def disconnect (uri : String) (w : Wire) : Wire :=
  { w with closes := w.closes ++ [uri], live := w.live.filter (· ≠ uri) }

def request (uri : String) (w : Wire) : Except TransportFailure String × Wire :=
  let answer := match w.responses.lookup uri with
    | some (.ok body) => .ok body
    | some (.error reason) => .error ⟨uri, reason⟩
    | none => .error ⟨uri, "no response registered"⟩
  (answer, { w with requests := w.requests ++ [uri] })

def respond (uri : String) (answer : Except String String) (w : Wire) : Wire :=
  { w with responses := (uri, answer) :: w.responses }

def refuse (uri : String) (w : Wire) : Wire := { w with refused := uri :: w.refused }

end Wire

end RouteBus.Rehearsal
