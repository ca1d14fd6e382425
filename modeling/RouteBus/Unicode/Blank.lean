/-!
# Blank characters

White space and its two special kinds: separators of words and of lines.
-/

namespace RouteBus.Unicode

def isSpaceSeparator (c : Char) : Bool :=
  c == ' ' || c == '\u00a0' || c == '\u1680' || ('\u2000' ≤ c && c ≤ '\u200a') || c == '\u202f'
    || c == '\u205f' || c == '\u3000'

def isLineTerminator (c : Char) : Bool :=
  c == '\n' || c == '\r' || c == '\u2028' || c == '\u2029'

def isBlank (c : Char) : Bool :=
  isSpaceSeparator c || isLineTerminator c || c == '\t' || c == '\x0b' || c == '\x0c'
    || c == '\u0085'

def trim (cs : List Char) : List Char := ((cs.dropWhile isBlank).reverse.dropWhile isBlank).reverse

end RouteBus.Unicode
