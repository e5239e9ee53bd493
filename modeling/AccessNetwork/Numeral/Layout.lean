import AccessNetwork.Numeral.Shortest

/-!
How a number is written in labels and messages: the fewest digits that read back, positionally
while the point lies at most 21 places behind the first digit and at most six zeros before it, and
otherwise with one digit before the point and a signed exponent. Whole numbers carry no point, and
zero carries no sign.
-/

namespace AccessNetwork.Numeral

set_option autoImplicit false

/-- Which powers of ten of the point are written positionally. -/
structure Layout where
  leadingZeros : Nat
  wholeDigits : Nat

def plainLayout : Layout := ⟨6, 21⟩

def dropTrailingZeros (digits : List Char) : List Char :=
  (digits.reverse.dropWhile (· == '0')).reverse

def zeros (count : Nat) : List Char := List.replicate count '0'

/-- Digits with the point after this many of them, counted before the first digit if negative. -/
def layOut (style : Layout) (digits : List Char) (point : Int) : List Char :=
  if (digits.length : Int) ≤ point ∧ point ≤ style.wholeDigits then
    digits ++ zeros (point.toNat - digits.length)
  else if 0 < point ∧ point ≤ style.wholeDigits then
    digits.take point.toNat ++ '.' :: digits.drop point.toNat
  else if -(style.leadingZeros : Int) < point ∧ point ≤ 0 then
    '0' :: '.' :: (zeros (-point).toNat ++ digits)
  else
    let exponent := point - 1
    let fraction := if digits.length ≤ 1 then [] else '.' :: digits.drop 1
    let sign := if exponent < 0 then '-' else '+'
    digits.take 1 ++ fraction ++ 'e' :: sign :: Nat.toDigits 10 exponent.natAbs

def decimalText (value : Rat) : List Char :=
  let decimal := shortest value
  let digits := Nat.toDigits 10 decimal.count
  layOut plainLayout (dropTrailingZeros digits) (digits.length + decimal.exponent)

end AccessNetwork.Numeral

namespace AccessNetwork.Number

open AccessNetwork.Numeral

set_option autoImplicit false

def text : Number → String
  | .notANumber => "NaN"
  | .infinity negative => if negative then "-Infinity" else "Infinity"
  | .finite value =>
      if value.num = 0 then "0"
      else if value.num < 0 then String.ofList ('-' :: decimalText (-value))
      else String.ofList (decimalText value)

end AccessNetwork.Number
