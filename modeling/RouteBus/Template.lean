import RouteBus.Template.Token

/-!
# Templates

Reading a template, the two ways it can fail, and filling its markers with
arguments.
-/

namespace RouteBus

inductive TemplateError where
  /-- A `:` at a segment start is not followed by a name; `position` counts bytes of UTF-8. -/
  | emptyParameterName (template : String) (position : Nat)
  | duplicateParameter (template name : String)
  deriving DecidableEq, Repr

namespace TemplateError

def template : TemplateError → String
  | .emptyParameterName template _ | .duplicateParameter template _ => template

def message : TemplateError → String
  | .emptyParameterName template position =>
    s!"parameter marker without a name at position {position} in template '{template}'"
  | .duplicateParameter template name =>
    s!"parameter '{name}' declared twice in template '{template}'"

end TemplateError

/-- What filling a template gives: `complete` is false when a marker was left in it. -/
structure Target where
  uri : String
  complete : Bool
  deriving DecidableEq, Repr

structure Template where
  raw : String
  tokens : List Token
  deriving DecidableEq, Repr

/-- The first member that stands in `seen` or earlier in the list. -/
def firstRepeat (seen : List (List Char)) : List (List Char) → Option (List Char)
  | [] => none
  | name :: names => if name ∈ seen then some name else firstRepeat (name :: seen) names

namespace Template

/-- Reads a template. An unnamed `:` is reported before a repeated name. -/
def parse (text : String) : Except TemplateError Template :=
  match Token.scan 0 true text.toList with
  | .error position => .error (.emptyParameterName text position)
  | .ok tokens =>
    match firstRepeat [] (tokens.filterMap Token.givenName?) with
    | some name => .error (.duplicateParameter text (String.ofList name))
    | none => .ok ⟨text, tokens⟩

def names (t : Template) : List String := (t.tokens.filterMap Token.paramName?).map String.ofList

def resolve (t : Template) (args : List String) : Target where
  uri := String.ofList (Token.fill t.tokens (args.map String.toList))
  complete := Token.markerCount t.tokens ≤ args.length

end Template

def resolve (template : String) (args : List String) : Except TemplateError Target :=
  (·.resolve args) <$> Template.parse template

end RouteBus
