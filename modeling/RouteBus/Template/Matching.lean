import RouteBus.Template
import RouteBus.Template.Marked

/-!
# Matching a topic against a template

A topic matches when it is, token by token, the literals unchanged, a non-empty
text without separators for each `:name` and a text without line feed for each
wildcard. Where several readings exist, a `:name` prefers the longest text and a
wildcard the shortest, which for a last wildcard is all that is left.
-/

namespace RouteBus

/-- At each place of `topic` the values of the markers, in order, under the
preferred reading of what follows, if the tokens match all of it. -/
def Token.readings : List Token → List Char → Marked (Option (List (List Char)))
  | [], topic => .ofText [] topic
  | .literal text :: rest, topic => (readings rest topic).literal text
  | .named _ :: rest, topic =>
    (readings rest topic).segment.map (·.map fun (value, values) => value :: values)
  | .wildcard _ :: rest, topic =>
    (readings rest topic).line.map (·.map fun (value, values) => value :: values)

namespace Template

/-- The values of the markers in order of declaration, if all of `topic` matches. -/
def extract (t : Template) (topic : String) : Option (List String) :=
  (Token.readings t.tokens topic.toList).mark.map (·.map String.ofList)

def test (t : Template) (topic : String) : Bool := (t.extract topic).isSome

end Template

end RouteBus
