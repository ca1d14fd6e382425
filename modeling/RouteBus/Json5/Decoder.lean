import RouteBus.Json5.Lexeme

/-!
# Decoding JSON5

A reader goes through the lexemes with a stack of the lists and objects that are
still open. A comma may stand behind the last item or member.
-/

namespace RouteBus.Json5

inductive Frame where
  | items (done : List Json5)
  | members (done : List (MaybeText × Json5))
  /-- An object whose member `key` is being read. -/
  | member (done : List (MaybeText × Json5)) (key : MaybeText)

inductive Awaits where
  | value
  | valueOrClose
  | keyOrClose
  | colon
  /-- A comma or the end of the innermost frame, after a value in it. -/
  | next (value : Json5)

structure Reader where
  stack : List Frame
  awaits : Awaits

/-- The value of a word where a value stands. -/
def constant? : String → Option Json5
  | "null" => some .null
  | "true" => some (.bool true)
  | "false" => some (.bool false)
  | "Infinity" | "NaN" => some .number
  | _ => none

namespace Reader

def startValue? (r : Reader) : Lexeme → Option Reader
  | .text value => some ⟨r.stack, .next (.text value)⟩
  | .number => some ⟨r.stack, .next .number⟩
  | .word written _ => (fun value => ⟨r.stack, .next value⟩) <$> constant? written
  | .openList => some ⟨.items [] :: r.stack, .valueOrClose⟩
  | .openObject => some ⟨.members [] :: r.stack, .keyOrClose⟩
  | _ => none

def step? (r : Reader) (lexeme : Lexeme) : Option Reader :=
  match r.awaits with
  | .value => r.startValue? lexeme
  | .valueOrClose =>
    match lexeme, r.stack with
    | .closeList, .items done :: stack => some ⟨stack, .next (.list done.reverse)⟩
    | _, _ => r.startValue? lexeme
  | .keyOrClose =>
    match lexeme, r.stack with
    | .closeObject, .members done :: stack => some ⟨stack, .next (.object done.reverse)⟩
    | .text key, .members done :: stack | .word _ key, .members done :: stack =>
      some ⟨.member done key :: stack, .colon⟩
    | _, _ => none
  | .colon => if lexeme = .colon then some ⟨r.stack, .value⟩ else none
  | .next value =>
    match r.stack, lexeme with
    | .items done :: stack, .comma => some ⟨.items (value :: done) :: stack, .valueOrClose⟩
    | .items done :: stack, .closeList => some ⟨stack, .next (.list (value :: done).reverse)⟩
    | .member done key :: stack, .comma =>
      some ⟨.members ((key, value) :: done) :: stack, .keyOrClose⟩
    | .member done key :: stack, .closeObject =>
      some ⟨stack, .next (.object ((key, value) :: done).reverse)⟩
    | _, _ => none

def finish? (r : Reader) : Option Json5 :=
  match r.stack, r.awaits with
  | [], .next value => some value
  | _, _ => none

end Reader

def decode? (text : String) : Option Json5 := do
  (← (lexemes text).foldlM Reader.step? ⟨[], .value⟩).finish?

end RouteBus.Json5
