import RouteBus.Json.Basic

/-!
# JSON lexemes

The text is cut into punctuation, literals, numbers and strings. Cutting stops
at the first fault, which stays in the result as a lexeme, so that a fault is
seen only by a reader that gets that far.
-/

namespace RouteBus

inductive Undecodable where
  | early
  | malformed
  /-- The text begins a value of the wrong kind. -/
  | wrongKind
  deriving DecidableEq, Repr

inductive Lexeme where
  | openArray | closeArray | openObject | closeObject | comma | colon
  | null
  | bool (value : Bool)
  | number (value : Number)
  | text (value : String)
  /-- A value that cannot be cut off; `quoted` tells whether it begins as a string. -/
  | fault (quoted : Bool) (reason : Undecodable)
  deriving DecidableEq, Repr

-- ---------------------------------------------------------------------------
-- Strings
-- ---------------------------------------------------------------------------

def hexValue? (c : Char) : Option Nat :=
  if c.isDigit then some (c.toNat - '0'.toNat)
  else if 'a' ≤ c ∧ c ≤ 'f' then some (c.toNat - 'a'.toNat + 10)
  else if 'A' ≤ c ∧ c ≤ 'F' then some (c.toNat - 'A'.toNat + 10)
  else none

def hexNumber? (cs : List Char) : Option Nat :=
  cs.foldlM (fun n c => (16 * n + ·) <$> hexValue? c) 0

def isHighSurrogate (n : Nat) : Bool := 0xD800 ≤ n && n < 0xDC00
def isLowSurrogate (n : Nat) : Bool := 0xDC00 ≤ n && n < 0xE000

def joinSurrogates (high low : Nat) : Char :=
  Char.ofNat (0x10000 + (high - 0xD800) * 0x400 + (low - 0xDC00))

def unescape? : Char → Option Char
  | '"' => some '"'
  | '\\' => some '\\'
  | '/' => some '/'
  | 'b' => some '\x08'
  | 'f' => some '\x0c'
  | 'n' => some '\n'
  | 'r' => some '\r'
  | 't' => some '\t'
  | _ => none

/-- The fault of an escape that lacks its four hexadecimal digits: four bytes are looked at. -/
def shortEscape (rest : List Char) : Undecodable :=
  if (String.ofList rest).utf8ByteSize < 4 then .early else .malformed

def readText : List Char → Except Undecodable (List Char × List Char)
  | [] => .error .early
  | '"' :: rest => .ok ([], rest)
  | '\\' :: 'u' :: rest =>
    match rest with
    | a :: b :: c :: d :: rest =>
      match hexNumber? [a, b, c, d] with
      | none => .error .malformed
      | some n =>
        if isLowSurrogate n then .error .malformed
        else if isHighSurrogate n then
          match rest with
          | [] => .error .early
          | '\\' :: [] => .error .early
          | '\\' :: 'u' :: rest =>
            match rest with
            | a :: b :: c :: d :: rest =>
              match hexNumber? [a, b, c, d] with
              | none => .error .malformed
              | some low =>
                if isLowSurrogate low then do
                  let (text, rest) ← readText rest
                  return (joinSurrogates n low :: text, rest)
                else .error .malformed
            | short => .error (shortEscape short)
          | _ => .error .malformed
        else do
          let (text, rest) ← readText rest
          return (Char.ofNat n :: text, rest)
    | short => .error (shortEscape short)
  | '\\' :: [] => .error .early
  | '\\' :: c :: rest =>
    match unescape? c with
    | none => .error .malformed
    | some c => do
      let (text, rest) ← readText rest
      return (c :: text, rest)
  | c :: rest =>
    if c.toNat < 32 then .error .malformed
    else do
      let (text, rest) ← readText rest
      return (c :: text, rest)

-- ---------------------------------------------------------------------------
-- Numbers
-- ---------------------------------------------------------------------------

/-- The greatest significand that is kept exactly: a word of 64 bits. -/
def wordMax : Nat := UInt64.size - 1

/-- Appends digits to a significand until one no longer fits; also tells how many did. -/
def absorb (significand : Nat) : List Char → Nat × Nat
  | [] => (significand, 0)
  | d :: ds =>
    let next := 10 * significand + (d.toNat - '0'.toNat)
    if wordMax < next then (significand, 0)
    else
      let (result, count) := absorb next ds
      (result, count + 1)

/-- Scales a significand by a power of ten. Both are rounded to binary64 first and
the result once more; powers beyond the 308th are divided off step by step. -/
def scaleDecimal? (x : Double) (exponent : Int) : Nat → Option Double
  | 0 => some x
  | steps + 1 =>
    if exponent.natAbs ≤ 308 then do
      let power ← Double.ofNat? (Nat.pow 10 exponent.natAbs)
      if 0 ≤ exponent then x.mul? power else x.div? power
    else if x.mantissa = 0 then some x
    else if 0 ≤ exponent then none
    else do
      scaleDecimal? (← x.div? (← Double.ofNat? (Nat.pow 10 308))) (exponent + 308) steps

/-- The number `significand * 10 ^ exponent`. Two divisions bring any significand to zero. -/
def decimal (negative : Bool) (significand : Nat) (exponent : Int) : Except Undecodable Number :=
  match Double.ofNat? significand >>= (scaleDecimal? · exponent 4) with
  | none => .error .malformed
  | some x => .ok (.double { x with negative })

def exponentMax : Nat := (1 <<< 31) - 1

def readExponent (negative : Bool) (significand : Nat) (exponent : Int) (cs : List Char) :
    Except Undecodable (Number × List Char) :=
  let (down, cs) :=
    match cs with
    | '+' :: rest => (false, rest)
    | '-' :: rest => (true, rest)
    | _ => (false, cs)
  let digits := cs.takeWhile Char.isDigit
  let rest := cs.dropWhile Char.isDigit
  if digits.isEmpty then .error (if rest.isEmpty then .early else .malformed)
  else
    let size := (absorb 0 digits).1
    if exponentMax < size then
      if significand ≠ 0 ∧ !down then .error .malformed
      else .ok (.double (Double.zero negative), rest)
    else do
      let number ← decimal negative significand (if down then exponent - size else exponent + size)
      return (number, rest)

/-- Reads what may follow the whole part of a number. `dropped` digits of the
whole part were not kept. -/
def readFraction (negative : Bool) (significand dropped : Nat) (cs : List Char) :
    Except Undecodable (Number × List Char) :=
  match cs with
  | '.' :: rest =>
    let digits := rest.takeWhile Char.isDigit
    let rest := rest.dropWhile Char.isDigit
    if digits.isEmpty then .error (if rest.isEmpty then .early else .malformed)
    else
      let (significand, kept) := absorb significand digits
      let exponent : Int := dropped - kept
      match rest with
      | 'e' :: rest | 'E' :: rest => readExponent negative significand exponent rest
      | rest => (·, rest) <$> decimal negative significand exponent
  | 'e' :: rest | 'E' :: rest => readExponent negative significand dropped rest
  | rest =>
    if 0 < dropped then (·, rest) <$> decimal negative significand dropped
    else if !negative then .ok (.int significand, rest)
    else if significand = 0 ∨ 1 <<< 63 < significand then
      (·, rest) <$> decimal true significand 0
    else .ok (.int (-significand), rest)

def readNumber (negative : Bool) (cs : List Char) : Except Undecodable (Number × List Char) :=
  match cs with
  | [] => .error .early
  | '0' :: rest =>
    match rest with
    | d :: _ => if d.isDigit then .error .malformed else readFraction negative 0 0 rest
    | [] => readFraction negative 0 0 rest
  | c :: _ =>
    if !c.isDigit then .error .malformed
    else
      let digits := cs.takeWhile Char.isDigit
      let (significand, kept) := absorb 0 digits
      readFraction negative significand (digits.length - kept) (cs.dropWhile Char.isDigit)

-- ---------------------------------------------------------------------------
-- Cutting
-- ---------------------------------------------------------------------------

def readWord : List Char → List Char → Except Undecodable (List Char)
  | [], cs => .ok cs
  | _ :: _, [] => .error .early
  | w :: word, c :: cs => if w = c then readWord word cs else .error .malformed

def isJsonBlank (c : Char) : Bool := c == ' ' || c == '\t' || c == '\n' || c == '\r'

/-- One lexeme at the head of a text that does not start with a blank. -/
def readLexeme (c : Char) (rest : List Char) : Lexeme × List Char :=
  let value (quoted : Bool) (read : Except Undecodable (Lexeme × List Char)) :=
    match read with
    | .ok result => result
    | .error reason => (.fault quoted reason, [])
  match c with
  | '[' => (.openArray, rest)
  | ']' => (.closeArray, rest)
  | '\x7b' => (.openObject, rest)
  | '\x7d' => (.closeObject, rest)
  | ',' => (.comma, rest)
  | ':' => (.colon, rest)
  | '"' => value true ((fun (text, rest) => (.text (String.ofList text), rest)) <$> readText rest)
  | 'n' => value false ((.null, ·) <$> readWord ['u', 'l', 'l'] rest)
  | 't' => value false ((.bool true, ·) <$> readWord ['r', 'u', 'e'] rest)
  | 'f' => value false ((.bool false, ·) <$> readWord ['a', 'l', 's', 'e'] rest)
  | '-' => value false ((fun (number, rest) => (.number number, rest)) <$> readNumber true rest)
  | c =>
    if c.isDigit then
      value false ((fun (number, rest) => (.number number, rest)) <$> readNumber false (c :: rest))
    else (.fault false .malformed, [])

def cutText : Nat → List Char → List Lexeme
  | 0, _ => []
  | size + 1, cs =>
    match cs.dropWhile isJsonBlank with
    | [] => []
    | c :: rest =>
      let (lexeme, rest) := readLexeme c rest
      lexeme :: cutText size rest

def lexemes (text : String) : List Lexeme :=
  let cs := text.toList
  cutText cs.length cs

end RouteBus
