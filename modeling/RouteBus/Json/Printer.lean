import RouteBus.Json.Basic
import RouteBus.Decimal.Shortest

/-!
# Compact JSON text

No blanks; strings escape the quote, the backslash and the characters below
space, and nothing else.
-/

namespace RouteBus

/-- Numbers are positional from the fifth decimal place to the sixteenth digit
and always show a fraction or an exponent. -/
def jsonLayout : DecimalLayout where
  leastPlace := -5
  greatestPlace := 15

def Number.text : Number → String
  | .int value => toString value
  | .double value =>
    let (digits, place) := value.shortest
    (if value.negative then "-" else "") ++ jsonLayout.write digits place

def hexDigit (n : Nat) : Char := "0123456789abcdef".toList.getD n '0'

def escapeChar (c : Char) : List Char :=
  if c = '"' then ['\\', '"']
  else if c = '\\' then ['\\', '\\']
  else if c = '\n' then ['\\', 'n']
  else if c = '\r' then ['\\', 'r']
  else if c = '\t' then ['\\', 't']
  else if c.toNat = 8 then ['\\', 'b']
  else if c.toNat = 12 then ['\\', 'f']
  else if c.toNat < 32 then ['\\', 'u', '0', '0', hexDigit (c.toNat / 16), hexDigit (c.toNat % 16)]
  else [c]

def quoteJson (text : String) : String :=
  "\"" ++ String.ofList (text.toList.flatMap escapeChar) ++ "\""

namespace Json

mutual
def text : Json → String
  | .null => "null"
  | .bool value => toString value
  | .num value => value.text
  | .str value => quoteJson value
  | .arr items => "[" ++ ",".intercalate (itemTexts items) ++ "]"
  | .obj members => "\x7b" ++ ",".intercalate (memberTexts members) ++ "\x7d"
def itemTexts : List Json → List String
  | [] => []
  | item :: rest => text item :: itemTexts rest
def memberTexts : List (String × Json) → List String
  | [] => []
  | (key, value) :: rest => (quoteJson key ++ ":" ++ text value) :: memberTexts rest
end

end Json

end RouteBus
