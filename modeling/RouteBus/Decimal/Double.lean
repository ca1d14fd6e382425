/-!
# Binary64 numbers

A finite binary64 number is kept as sign, mantissa and exponent. All arithmetic
is on natural numbers: a quotient is rounded to the nearest number, ties to the
even mantissa, and a result beyond the largest number is none.
-/

namespace RouteBus

/-- The number `mantissa * 2 ^ exponent` with a sign. The mantissa has at most 53
bits, and fewer only at the least exponent -1074. -/
structure Double where
  negative : Bool
  mantissa : Nat
  exponent : Int
  deriving DecidableEq, Repr

namespace Double

def zero (negative : Bool) : Double := ⟨negative, 0, -1074⟩

/-- Nearest integer to `num / den`, the even one of two equally near. -/
def roundQuotient (num den : Nat) : Nat :=
  let floor := num / den
  let twice := 2 * (num % den)
  if twice < den then floor
  else if den < twice then floor + 1
  else floor + floor % 2

/-- `num / den` as a multiple of `2 ^ exponent`, rounded. -/
def roundAt (num den : Nat) (exponent : Int) : Nat :=
  roundQuotient (num <<< (-exponent).toNat) (den <<< exponent.toNat)

/-- The number nearest to `num / den * 2 ^ shift`, unless it is too large. -/
def round? (negative : Bool) (num den : Nat) (shift : Int) : Option Double :=
  if num = 0 then some (zero negative)
  else
    let num := num <<< shift.toNat
    let den := den <<< (-shift).toNat
    let size : Int := num.log2 - den.log2 - 52
    let size := if num <<< (-size).toNat < den <<< (size.toNat + 52) then size - 1 else size
    let exponent := max size (-1074)
    let mantissa := roundAt num den exponent
    let result : Double :=
      if mantissa = 1 <<< 53 then ⟨negative, 1 <<< 52, exponent + 1⟩ else ⟨negative, mantissa, exponent⟩
    if 971 < result.exponent then none else some result

def ofNat? (n : Nat) : Option Double := round? false n 1 0

def mul? (a b : Double) : Option Double :=
  round? (a.negative != b.negative) (a.mantissa * b.mantissa) 1 (a.exponent + b.exponent)

def div? (a b : Double) : Option Double :=
  round? (a.negative != b.negative) a.mantissa b.mantissa (a.exponent - b.exponent)

end Double

end RouteBus
