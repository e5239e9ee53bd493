import AccessNetwork.Number.Basic

/-!
Rounding to binary64: the nearest significand of 53 bits over a unit not below 2^(-1074), a half
going to the even significand, and infinity from 2^1024 on. Everything is exact arithmetic on
naturals; no machine float takes part.
-/

namespace AccessNetwork.Number

set_option autoImplicit false

def twoTo (exponent : Nat) : Nat := Nat.pow 2 exponent

def roundHalfEven (numerator denominator : Nat) : Nat :=
  let quotient := numerator / denominator
  match compare (2 * (numerator % denominator)) denominator with
  | .lt => quotient
  | .gt => quotient + 1
  | .eq => if quotient % 2 = 0 then quotient else quotient + 1

/-- The exponent of the highest binary digit of a positive quotient. -/
def binaryExponent (numerator denominator : Nat) : Int :=
  let guess : Int := (numerator.log2 : Int) - denominator.log2
  if denominator * twoTo guess.toNat ≤ numerator * twoTo (-guess).toNat then guess else guess - 1

/-- The exponent of the unit in which the significand of a positive quotient counts. -/
def unitExponent (numerator denominator : Nat) : Int :=
  max (binaryExponent numerator denominator - 52) (-1074)

def scaleTwo (count : Int) (exponent : Int) : Rat :=
  if 0 ≤ exponent then ((count * twoTo exponent.toNat : Int) : Rat)
  else mkRat count (twoTo (-exponent).toNat)

def nearest (value : Rat) : Number :=
  let magnitude := value.num.natAbs
  if magnitude = 0 then .finite 0
  else
    let unit := unitExponent magnitude value.den
    let significand := roundHalfEven (magnitude * twoTo (-unit).toNat) (value.den * twoTo unit.toNat)
    if 0 ≤ unit ∧ twoTo 1024 ≤ significand * twoTo unit.toNat then .infinity (value.num < 0)
    else .finite (scaleTwo (value.num.sign * significand) unit)

def ofDecimal (digits : Int) (places : Nat) : Number := nearest (mkRat digits (Nat.pow 10 places))

end AccessNetwork.Number
