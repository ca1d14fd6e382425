/-!
# JSON5 values

A string is kept as code units in disguise: it has a text only if its surrogate
escapes pair up, and who never asks for the text never finds out. Numbers are
only told apart from other values.
-/

namespace RouteBus

/-- A text, unless its escapes name a surrogate that stands alone. -/
abbrev MaybeText := Option String

inductive Json5 where
  | null
  | bool (value : Bool)
  | number
  | text (value : MaybeText)
  | list (items : List Json5)
  /-- Members as they were written, repeated keys included. -/
  | object (members : List (MaybeText × Json5))
  deriving Inhabited, Repr

namespace Json5

def asText? : Json5 → Option String
  | .text value => value
  | _ => none

def asList? : Json5 → Option (List Json5)
  | .list items => some items
  | _ => none

def listOf? {α : Type} (read : Json5 → Option α) (j : Json5) : Option (List α) := do
  (← j.asList?).mapM read

def members? : Json5 → Option (List (String × Json5))
  | .object members => members.mapM fun (key, value) => (·, value) <$> key
  | _ => none

/-- The values of the fields of a record. A record is written as an object that has
no other and no repeated key, or as the list of its fields in order, where
fields may be missing at the end and what follows the last one is ignored. -/
def fields? (names : List String) : Json5 → Option (List (Option Json5))
  | .list items => some ((List.range names.length).map (items[·]?))
  | .object members => do
    let members ← (Json5.object members).members?
    let keys := members.map (·.1)
    if keys.all (names.contains ·) ∧ keys.Nodup then
      some (names.map fun name => members.lookup name)
    else none
  | _ => none

end Json5

end RouteBus
