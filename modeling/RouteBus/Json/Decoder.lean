import RouteBus.Json.Lexeme

/-!
# Decoding JSON

A reader goes through the lexemes with a stack of the arrays and objects that
are still open, at most 127 of them. A text that ends while something is open
or missing ends too early; a lexeme out of place is malformed.
-/

namespace RouteBus

/-- An open array or object with what it holds so far, the last first. -/
inductive Frame where
  | items (done : List Json)
  | members (done : List (String × Json))
  /-- An object whose member `key` is being read. -/
  | member (done : List (String × Json)) (key : String)

inductive Awaits where
  | value
  | valueOrClose
  | key
  | keyOrClose
  | colon
  /-- A comma or the end of the innermost frame, after a value in it. -/
  | next (value : Json)

structure Reader where
  stack : List Frame
  awaits : Awaits

namespace Reader

def depthLimit : Nat := 127

def push (r : Reader) (frame : Frame) (awaits : Awaits) : Except Undecodable Reader :=
  if depthLimit ≤ r.stack.length then .error .malformed else .ok ⟨frame :: r.stack, awaits⟩

def startValue (r : Reader) : Lexeme → Except Undecodable Reader
  | .null => .ok ⟨r.stack, .next .null⟩
  | .bool value => .ok ⟨r.stack, .next (.bool value)⟩
  | .number value => .ok ⟨r.stack, .next (.num value)⟩
  | .text value => .ok ⟨r.stack, .next (.str value)⟩
  | .openArray => r.push (.items []) .valueOrClose
  | .openObject => r.push (.members []) .keyOrClose
  | .fault _ reason => .error reason
  | _ => .error .malformed

def startMember (r : Reader) (lexeme : Lexeme) : Except Undecodable Reader :=
  match r.stack, lexeme with
  | .members done :: stack, .text key => .ok ⟨.member done key :: stack, .colon⟩
  | _, .fault true reason => .error reason
  | _, _ => .error .malformed

def step (r : Reader) (lexeme : Lexeme) : Except Undecodable Reader :=
  match r.awaits with
  | .value => r.startValue lexeme
  | .valueOrClose =>
    match lexeme, r.stack with
    | .closeArray, _ :: stack => .ok ⟨stack, .next (.arr [])⟩
    | _, _ => r.startValue lexeme
  | .key => r.startMember lexeme
  | .keyOrClose =>
    match lexeme, r.stack with
    | .closeObject, _ :: stack => .ok ⟨stack, .next (.obj [])⟩
    | _, _ => r.startMember lexeme
  | .colon => if lexeme = .colon then .ok ⟨r.stack, .value⟩ else .error .malformed
  | .next value =>
    match r.stack, lexeme with
    | .items done :: stack, .comma => .ok ⟨.items (value :: done) :: stack, .value⟩
    | .items done :: stack, .closeArray => .ok ⟨stack, .next (.arr (value :: done).reverse)⟩
    | .member done key :: stack, .comma => .ok ⟨.members ((key, value) :: done) :: stack, .key⟩
    | .member done key :: stack, .closeObject =>
      .ok ⟨stack, .next (Json.ofMembers ((key, value) :: done).reverse)⟩
    | _, _ => .error .malformed

def start : Reader := ⟨[], .value⟩

def finish (r : Reader) : Except Undecodable Json :=
  match r.stack, r.awaits with
  | [], .next value => .ok value
  | _, _ => .error .early

end Reader

namespace Json

def ofLexemes (lexemes : List Lexeme) : Except Undecodable Json := do
  (← lexemes.foldlM Reader.step Reader.start).finish

def decode (text : String) : Except Undecodable Json := ofLexemes (lexemes text)

/-- Decodes a text that is one array. A scalar is read completely before its kind
is judged, an object at its opening brace. -/
def decodeArray (text : String) : Except Undecodable (List Json) := do
  let lexemes := lexemes text
  match lexemes.head? with
  | none => throw .early
  | some .openArray =>
    match ← ofLexemes lexemes with
    | .arr items => return items
    | _ => throw .wrongKind
  | some (.fault _ reason) => throw reason
  | some .openObject | some .null | some (.bool _) | some (.number _) | some (.text _) =>
    throw .wrongKind
  | some _ => throw .malformed

end Json

end RouteBus
