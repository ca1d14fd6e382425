import RouteBus.Decimal.Double

/-!
# Shortest decimals

The fewest decimal digits that read back as a given binary64 number. A decimal
reads back when it lies in the interval of numbers that round to it; the ends
belong to the interval when the mantissa is even. On the grid of each length
only the two neighbours of the number need a test, and of two hits the nearer
is taken, the even one of two equally near.
-/

namespace RouteBus

def compareScaled (c : Nat) (k : Int) (x : Nat) (q : Int) : Ordering :=
  compare ((c * Nat.pow 10 k.toNat) <<< (-q).toNat) ((x * Nat.pow 10 (-k).toNat) <<< q.toNat)

namespace Double

/-- The ends of the interval that rounds to a number, in units of a quarter of its last place. -/
def interval (x : Double) : Nat × Nat :=
  (if x.mantissa = 1 <<< 52 ∧ -1074 < x.exponent then 4 * x.mantissa - 1 else 4 * x.mantissa - 2,
    4 * x.mantissa + 2)

def isReadFrom (x : Double) (c : Nat) (k : Int) : Bool :=
  let closed := x.mantissa % 2 == 0
  let low := compareScaled c k x.interval.1 (x.exponent - 2)
  let high := compareScaled c k x.interval.2 (x.exponent - 2)
  (low == .gt || closed && low == .eq) && (high == .lt || closed && high == .eq)

/-- The place of the leading decimal digit of a number that is not zero. -/
def leadingPlace (x : Double) : Int :=
  let scaled := (x.mantissa * Nat.pow 10 330) <<< x.exponent.toNat >>> (-x.exponent).toNat
  (toString scaled).length - 331

def floorAt (x : Double) (k : Int) : Nat :=
  ((x.mantissa * Nat.pow 10 (-k).toNat) <<< x.exponent.toNat) /
    (Nat.pow 10 k.toNat <<< (-x.exponent).toNat)

/-- A decimal of the grid `10 ^ k` that reads back, if there is one. -/
def decimalAt? (x : Double) (k : Int) : Option Nat :=
  let c := x.floorAt k
  match x.isReadFrom c k, x.isReadFrom (c + 1) k with
  | false, false => none
  | true, false => some c
  | false, true => some (c + 1)
  | true, true =>
    match compareScaled (2 * c + 1) k (2 * x.mantissa) x.exponent with
    | .lt => some (c + 1)
    | .gt => some c
    | .eq => some (c + c % 2)

def shortestFrom (x : Double) (place : Int) : Nat → Nat × Int
  | 0 => (x.floorAt (place - 16), place - 16)
  | fewer + 1 =>
    let k := place - (16 - fewer)
    match x.decimalAt? k with
    | some c => (c, k)
    | none => shortestFrom x place fewer

/-- The digits of the shortest decimal and the place of its first digit. -/
def shortest (x : Double) : List Char × Int :=
  if x.mantissa = 0 then (['0'], 0)
  else
    let (c, k) := shortestFrom x x.leadingPlace 17
    let digits := (toString c).toList
    let kept := (digits.reverse.dropWhile (· == '0')).reverse
    (kept, k + digits.length - 1)

end Double

/-- How a decimal is laid out: positional between two places of the first digit,
otherwise with an exponent and its sign. -/
structure DecimalLayout where
  leastPlace : Int
  greatestPlace : Int

namespace DecimalLayout

def writeExponent (place : Int) : String :=
  (if place < 0 then "e-" else "e+") ++ toString place.natAbs

def write (layout : DecimalLayout) (digits : List Char) (place : Int) : String :=
  if layout.leastPlace ≤ place ∧ place ≤ layout.greatestPlace then
    if place < 0 then
      "0." ++ "".pushn '0' (-place - 1).toNat ++ String.ofList digits
    else
      let whole := digits.take (place.toNat + 1)
      let fraction := digits.drop (place.toNat + 1)
      (String.ofList whole).pushn '0' (place.toNat + 1 - whole.length) ++ "." ++
        (if fraction.isEmpty then "0" else String.ofList fraction)
  else
    let fraction := digits.tail
    String.ofList (digits.take 1) ++ (if fraction.isEmpty then "" else "." ++ String.ofList fraction)
      ++ writeExponent place

end DecimalLayout

end RouteBus
