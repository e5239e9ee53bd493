import AccessNetwork.Number.Rounding

/-!
The fewest decimal digits that read back. On the decimal grids of one, two, up to seventeen
significant digits the two neighbours of a positive value are tried, and the first grid with a
neighbour that rounds to the value gives the digits: of two such neighbours the closer one, and of
two equally close the even one. A value that no such grid gives back is written exactly.
-/

namespace AccessNetwork.Numeral

set_option autoImplicit false

/-- A count of units of the power of ten with this exponent. -/
structure Decimal where
  count : Nat
  exponent : Int
  deriving DecidableEq, Repr

def tenTo (exponent : Int) : Rat :=
  if 0 ≤ exponent then (Nat.pow 10 exponent.toNat : Rat) else mkRat 1 (Nat.pow 10 (-exponent).toNat)

def Decimal.value (decimal : Decimal) : Rat := (decimal.count : Rat) * tenTo decimal.exponent

def Decimal.readsBack (decimal : Decimal) (value : Rat) : Bool :=
  Number.nearest decimal.value == .finite value

def digitCount (count : Nat) : Nat := (Nat.toDigits 10 count).length

def leadingExponent (value : Rat) : Int :=
  let numerator := value.num.natAbs
  if value.den ≤ numerator then digitCount (numerator / value.den)
  else 1 - (digitCount ((value.den - 1) / numerator) : Int)

/-- The neighbour on the grid of this exponent that reads back, the better one if both do. -/
def onGrid (value : Rat) (exponent : Int) : Option Decimal :=
  let quotient := value / tenTo exponent
  let below : Decimal := ⟨quotient.floor.toNat, exponent⟩
  let above : Decimal := ⟨quotient.floor.toNat + 1, exponent⟩
  match below.readsBack value, above.readsBack value with
  | false, false => none
  | true, false => some below
  | false, true => some above
  | true, true =>
      let low := value - below.value
      let high := above.value - value
      if low < high then some below
      else if high < low then some above
      else some (if below.count % 2 = 0 then below else above)

def exactDecimal (value : Rat) : Decimal :=
  ⟨value.num.natAbs * Nat.pow 5 value.den.log2, -(value.den.log2 : Int)⟩

def shortest (value : Rat) : Decimal :=
  let leading := leadingExponent value
  ((List.range 17).findSome? fun digits => onGrid value (leading - (digits + 1 : Nat))).getD
    (exactDecimal value)

end AccessNetwork.Numeral
