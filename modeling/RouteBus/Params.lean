import RouteBus.Template.Matching

/-!
# Route parameters

Values captured by a template together with their names, in order of
declaration.
-/

namespace RouteBus

structure Params where
  names : List String
  values : List String
  deriving DecidableEq, Repr

namespace Params

/-- Values without names of their own go by their positions. -/
def ofValues (values : List String) : Params where
  names := (List.range values.length).map toString
  values := values

/-- The value at the first position that `name` stands at. -/
def get? (p : Params) (name : String) : Option String :=
  (p.names.findIdx? (· == name)).bind (p.values[·]?)

/-- Pairs of name and value, as far as both go. -/
def toList (p : Params) : List (String × String) := p.names.zip p.values

def format (p : Params) : String :=
  if p.values.isEmpty then "none"
  else ",".intercalate (p.toList.map fun (name, value) => s!"{name}={value}")

end Params

def formatKeys (keys : List String) : String :=
  if keys.isEmpty then "none" else ",".intercalate keys

def Template.captures (t : Template) (topic : String) : Option Params :=
  (t.extract topic).map fun values => ⟨t.names, values⟩

end RouteBus
