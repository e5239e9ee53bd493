import AccessNetwork.Number.Basic

/-!
Numbers in base sixteen, exactly: the digits of the whole part and, for a fraction over a power of
two, as many further digits as it has. A fraction over any other denominator is cut off.
-/

namespace AccessNetwork.Numeral

set_option autoImplicit false

def hexDigits (count : Nat) : List Char := Nat.toDigits 16 count

/-- The digits of a rest below the denominator, at most so many. -/
def hexFraction (denominator : Nat) : Nat → Nat → List Char
  | 0, _ => []
  | places + 1, rest =>
      if rest = 0 then []
      else Nat.digitChar (rest * 16 / denominator) ::
        hexFraction denominator places (rest * 16 % denominator)

def hexMagnitude (numerator denominator : Nat) : List Char :=
  let fraction := hexFraction denominator denominator.log2 (numerator % denominator)
  hexDigits (numerator / denominator) ++ (if fraction.isEmpty then [] else '.' :: fraction)

theorem hex_magnitude_whole (count : Nat) : hexMagnitude count 1 = hexDigits count := by
  have noPlaces : Nat.log2 1 = 0 := by decide
  simp [hexMagnitude, hexFraction, noPlaces]

end AccessNetwork.Numeral

namespace AccessNetwork.Number

open AccessNetwork.Numeral

set_option autoImplicit false

def hex : Number → List Char
  | .notANumber => "NaN".toList
  | .infinity negative => if negative then "-Infinity".toList else "Infinity".toList
  | .finite value =>
      let magnitude := hexMagnitude value.num.natAbs value.den
      if value.num < 0 then '-' :: magnitude else magnitude

theorem hex_of_nat (count : Nat) : (ofInt count).hex = hexDigits count := by
  simp only [hex, ofInt, Rat.num_intCast, Rat.den_intCast, Int.natAbs_natCast, hex_magnitude_whole]
  rw [if_neg (by omega)]

end AccessNetwork.Number
