import RouteBus.Json5.Basic
import RouteBus.Json.Lexeme
import RouteBus.Unicode.Blank
import RouteBus.Unicode.Letter
import RouteBus.Unicode.WordPart

/-!
# JSON5 lexemes

Blanks and comments separate lexemes and are dropped. A word is a key, a
constant or the name of a number; only where it stands tells which.
-/

namespace RouteBus.Json5

inductive Lexeme where
  | openList | closeList | openObject | closeObject | comma | colon
  | text (value : MaybeText)
  /-- `written` is the word with its escapes, `value` without them. -/
  | word (written : String) (value : MaybeText)
  | number
  | fault
  deriving DecidableEq, Repr

-- ---------------------------------------------------------------------------
-- Texts
-- ---------------------------------------------------------------------------

/-- A piece of a string: a character, or a code unit of UTF-16 given by an escape. -/
inductive Piece where
  | char (c : Char)
  | unit (n : Nat)

/-- The character that two surrogates stand for. Their offset is laid over the first
supplementary plane and not added to it, so planes with an even number, which would
need a carry, fall onto the planes before them. -/
def overlaySurrogates (high low : Nat) : Char :=
  Char.ofNat ((high - 0xD800) * 0x400 ||| (0x10000 + (low - 0xDC00)))

/-- Puts pieces together; each high surrogate takes the low one right behind it. -/
def joinPieces : List Piece → Option (List Char)
  | [] => some []
  | .char c :: rest => (c :: ·) <$> joinPieces rest
  | .unit n :: rest =>
    if isLowSurrogate n then none
    else if isHighSurrogate n then
      match rest with
      | .unit low :: rest =>
        if isLowSurrogate low then (overlaySurrogates n low :: ·) <$> joinPieces rest else none
      | _ => none
    else (Char.ofNat n :: ·) <$> joinPieces rest

def textOf (pieces : List Piece) : MaybeText := String.ofList <$> joinPieces pieces

/-- What a character stands for behind a backslash; digits, `x` and `u` are not asked for here. -/
def unescape : Char → Char
  | 'b' => '\x08'
  | 'f' => '\x0c'
  | 'n' => '\n'
  | 'r' => '\r'
  | 't' => '\t'
  | 'v' => '\x0b'
  | c => c

/-- Reads a string behind its opening quote. A backslash joins lines. -/
def readText (quote : Char) : List Char → Option (List Piece × List Char)
  | [] => none
  | '\\' :: 'x' :: a :: b :: rest => do
    let n ← hexNumber? [a, b]
    let (pieces, rest) ← readText quote rest
    return (.char (Char.ofNat n) :: pieces, rest)
  | '\\' :: 'u' :: a :: b :: c :: d :: rest => do
    let n ← hexNumber? [a, b, c, d]
    let (pieces, rest) ← readText quote rest
    return (.unit n :: pieces, rest)
  | '\\' :: '\r' :: '\n' :: rest => readText quote rest
  | '\\' :: '0' :: rest => do
    let (pieces, rest) ← readText quote rest
    return (.char '\x00' :: pieces, rest)
  | '\\' :: c :: rest =>
    if Unicode.isLineTerminator c then readText quote rest
    else if c.isDigit || c == 'x' || c == 'u' then none
    else do
      let (pieces, rest) ← readText quote rest
      return (.char (unescape c) :: pieces, rest)
  | c :: rest =>
    if c = quote then some ([], rest)
    else if c = '\\' || Unicode.isLineTerminator c then none
    else do
      let (pieces, rest) ← readText quote rest
      return (.char c :: pieces, rest)

-- ---------------------------------------------------------------------------
-- Words
-- ---------------------------------------------------------------------------

def isWordStart (c : Char) : Bool := Unicode.isLetter c || c == '$' || c == '_'

def continuesWord (c : Char) : Bool :=
  isWordStart c || Unicode.isWordPart c || c == '\u200c' || c == '\u200d'

/-- Reads a word, given whether a character may stand next; a word ends where none may. -/
def readWord (allowed : Char → Bool) : List Char → List Piece × List Char
  | [] => ([], [])
  | '\\' :: 'u' :: a :: b :: c :: d :: rest =>
    match hexNumber? [a, b, c, d] with
    | none => ([], '\\' :: 'u' :: a :: b :: c :: d :: rest)
    | some n =>
      let (pieces, rest) := readWord continuesWord rest
      (.unit n :: pieces, rest)
  | c :: rest =>
    if allowed c then
      let (pieces, rest) := readWord continuesWord rest
      (.char c :: pieces, rest)
    else ([], c :: rest)

-- ---------------------------------------------------------------------------
-- Numbers
-- ---------------------------------------------------------------------------

def dropExponent (cs : List Char) : List Char :=
  let digits (rest : List Char) : List Char :=
    if rest.head?.any Char.isDigit then rest.dropWhile Char.isDigit else cs
  match cs with
  | 'e' :: '+' :: rest | 'e' :: '-' :: rest | 'E' :: '+' :: rest | 'E' :: '-' :: rest
  | 'e' :: rest | 'E' :: rest => digits rest
  | _ => cs

def dropDecimal? (cs : List Char) : Option (List Char) :=
  let whole? : Option (List Char) := match cs with
    | '0' :: rest => some rest
    | c :: rest => if c.isDigit then some (rest.dropWhile Char.isDigit) else none
    | [] => none
  match whole?, cs with
  | some ('.' :: rest), _ => some (dropExponent (rest.dropWhile Char.isDigit))
  | some rest, _ => some (dropExponent rest)
  | none, '.' :: c :: rest =>
    if c.isDigit then some (dropExponent (rest.dropWhile Char.isDigit)) else none
  | none, _ => none

def dropUnsigned? : List Char → Option (List Char)
  | '0' :: x :: c :: rest =>
    if (x == 'x' || x == 'X') && (hexValue? c).isSome then
      some (rest.dropWhile fun c => (hexValue? c).isSome)
    else dropDecimal? ('0' :: x :: c :: rest)
  | 'I' :: 'n' :: 'f' :: 'i' :: 'n' :: 'i' :: 't' :: 'y' :: rest => some rest
  | 'N' :: 'a' :: 'N' :: rest => some rest
  | cs => dropDecimal? cs

def dropNumber? : List Char → Option (List Char)
  | '+' :: rest | '-' :: rest => dropUnsigned? rest
  | cs => dropUnsigned? cs

-- ---------------------------------------------------------------------------
-- Cutting
-- ---------------------------------------------------------------------------

def isBlank (c : Char) : Bool :=
  Unicode.isSpaceSeparator c || Unicode.isLineTerminator c || c == '\t' || c == '\x0b'
    || c == '\x0c' || c == '\ufeff'

def dropComment? : List Char → Option (List Char)
  | [] => none
  | '*' :: '/' :: rest => some rest
  | _ :: rest => dropComment? rest

/-- One lexeme at the head of a text that starts neither with a blank nor with a comment. -/
def readLexeme (c : Char) (rest : List Char) : Lexeme × List Char :=
  match c with
  | '[' => (.openList, rest)
  | ']' => (.closeList, rest)
  | '\x7b' => (.openObject, rest)
  | '\x7d' => (.closeObject, rest)
  | ',' => (.comma, rest)
  | ':' => (.colon, rest)
  | '"' | '\x27' =>
    match readText c rest with
    | some (pieces, rest) => (.text (textOf pieces), rest)
    | none => (.fault, [])
  | c =>
    match readWord isWordStart (c :: rest) with
    | ([], _) =>
      match dropNumber? (c :: rest) with
      | some rest => (.number, rest)
      | none => (.fault, [])
    | (pieces, behind) =>
      let written := (c :: rest).take (rest.length + 1 - behind.length)
      (.word (String.ofList written) (textOf pieces), behind)

def cutText : Nat → List Char → List Lexeme
  | 0, _ => []
  | _ + 1, [] => []
  | size + 1, '/' :: '/' :: rest =>
    cutText size (rest.dropWhile fun c => !Unicode.isLineTerminator c)
  | size + 1, '/' :: '*' :: rest =>
    match dropComment? rest with
    | some rest => cutText size rest
    | none => [.fault]
  | size + 1, c :: rest =>
    if isBlank c then cutText size rest
    else
      let (lexeme, rest) := readLexeme c rest
      lexeme :: cutText size rest

def lexemes (text : String) : List Lexeme :=
  let cs := text.toList
  cutText cs.length cs

end RouteBus.Json5
