/-!
# Template tokens

A template is read into literal text and markers. A marker stands only at the
start of a segment, that is at the beginning of the text or right after `/` or
`?`, and its name is the longest run of name characters behind it. Writing the
tokens back one after another gives the text that was read.
-/

namespace RouteBus

def isSeparator (c : Char) : Bool := c == '/' || c == '?'

/-- Marker names are made of ASCII letters, digits and the underscore. -/
def isNameChar (c : Char) : Bool := c.isAlphanum || c == '_'

inductive Token where
  | literal (text : List Char)
  /-- Stands for one segment, or the rest of one: at least one character, no separator. -/
  | named (name : List Char)
  /-- Stands for any text on one line, separators included. An empty name makes it anonymous. -/
  | wildcard (name : List Char)
  deriving DecidableEq, Repr

namespace Token

def text : Token → List Char
  | .literal text => text
  | .named name => ':' :: name
  | .wildcard name => '*' :: name

def isMarker : Token → Bool
  | .literal _ => false
  | .named _ | .wildcard _ => true

def givenName? : Token → Option (List Char)
  | .literal _ => none
  | .named name => some name
  | .wildcard [] => none
  | .wildcard (c :: name) => some (c :: name)

/-- The name a marker's value goes by: `*` for an anonymous wildcard. -/
def paramName? : Token → Option (List Char)
  | .literal _ => none
  | .named name => some name
  | .wildcard [] => some ['*']
  | .wildcard (c :: name) => some (c :: name)

/-- Puts a literal character in front; neighbouring literal text stays one token. -/
def consLiteral (c : Char) : List Token → List Token
  | .literal text :: rest => .literal (c :: text) :: rest
  | tokens => .literal [c] :: tokens

/-- Reads tokens. `offset` counts the bytes of UTF-8 before the text, and
`atStart` tells whether the text begins a segment. The error is the offset of
the first `:` that starts a segment without a name. -/
def scan (offset : Nat) (atStart : Bool) : List Char → Except Nat (List Token)
  | [] => .ok []
  | c :: cs =>
    if atStart && c == ':' then
      match cs.takeWhile isNameChar with
      | [] => .error offset
      | n :: ame => do
        let rest ← scan (offset + 1 + (n :: ame).length) false (cs.dropWhile isNameChar)
        return .named (n :: ame) :: rest
    else if atStart && c == '*' then do
      let name := cs.takeWhile isNameChar
      let rest ← scan (offset + 1 + name.length) false (cs.dropWhile isNameChar)
      return .wildcard name :: rest
    else do
      let rest ← scan (offset + c.utf8Size) (isSeparator c) cs
      return consLiteral c rest
  termination_by cs => cs.length
  decreasing_by
    all_goals simp only [List.length_cons]
    all_goals have := (List.dropWhile_suffix (l := cs) isNameChar).length_le
    all_goals omega

/-- Replaces markers by arguments, in order. Surplus arguments are ignored; a
marker without an argument is written as it was read. -/
def fill : List Token → List (List Char) → List Char
  | [], _ => []
  | .literal text :: rest, args => text ++ fill rest args
  | marker :: rest, [] => marker.text ++ fill rest []
  | _ :: rest, arg :: args => arg ++ fill rest args

/-- How many arguments a template takes. -/
def markerCount (tokens : List Token) : Nat := tokens.countP isMarker

end Token

end RouteBus
