import AccessNetwork.Numeral.Shortest
import AccessNetwork.Text.Blank

/-!
Numbers read from text. Blanks around a numeral do not count, and blanks alone read as zero. A
numeral is a decimal with an optional sign, fraction and power of ten, the word for infinity with an
optional sign, or digits in base two, eight or sixteen after a mark and without a sign. Any other
text reads as not a number. What is read is the number nearest to what is written.
-/

namespace AccessNetwork.Numeral

set_option autoImplicit false

/-- The value of a digit in bases up to sixteen. Sixteen stands for no digit. -/
def digitValue (char : Char) : Nat :=
  if '0' ≤ char ∧ char ≤ '9' then char.toNat - '0'.toNat
  else if 'a' ≤ char ∧ char ≤ 'f' then char.toNat - 'a'.toNat + 10
  else if 'A' ≤ char ∧ char ≤ 'F' then char.toNat - 'A'.toNat + 10
  else 16

def isDigitIn (base : Nat) (char : Char) : Bool := digitValue char < base

def valueIn (base : Nat) (digits : List Char) : Nat :=
  digits.foldl (fun total digit => total * base + digitValue digit) 0

def wholeIn? (base : Nat) (chars : List Char) : Option Nat :=
  if chars.isEmpty || !chars.all (isDigitIn base) then none else some (valueIn base chars)

def splitSign : List Char → Bool × List Char
  | '-' :: rest => (true, rest)
  | '+' :: rest => (false, rest)
  | rest => (false, rest)

def splitDigits (chars : List Char) : List Char × List Char :=
  (chars.takeWhile (isDigitIn 10), chars.dropWhile (isDigitIn 10))

def splitFraction : List Char → List Char × List Char
  | '.' :: rest => splitDigits rest
  | rest => ([], rest)

def exponent? : List Char → Option Int
  | [] => some 0
  | mark :: rest =>
      if mark = 'e' ∨ mark = 'E' then
        let (negative, digits) := splitSign rest
        (wholeIn? 10 digits).map fun count => if negative then -(count : Int) else count
      else none

/-- A decimal without a sign. Digits may be missing on one side of the point, not on both. -/
def decimal? (chars : List Char) : Option Decimal :=
  let (whole, afterWhole) := splitDigits chars
  let (fraction, afterFraction) := splitFraction afterWhole
  let digits := whole ++ fraction
  if digits.isEmpty then none
  else (exponent? afterFraction).map fun exponent =>
    ⟨valueIn 10 digits, exponent - fraction.length⟩

/-- A first digit more than 400 places from the point leaves no doubt, and no power is computed. -/
def Decimal.number (decimal : Decimal) : Number :=
  let place := digitCount decimal.count + decimal.exponent
  if decimal.count = 0 ∨ place < -400 then Number.ofInt 0
  else if 400 < place then .infinity false
  else Number.nearest decimal.value

def markedBase? (mark : Char) : Option Nat :=
  if mark = 'x' ∨ mark = 'X' then some 16
  else if mark = 'o' ∨ mark = 'O' then some 8
  else if mark = 'b' ∨ mark = 'B' then some 2
  else none

end AccessNetwork.Numeral

namespace AccessNetwork.Number

open AccessNetwork.Numeral

set_option autoImplicit false

def ofUnsigned (chars : List Char) : Number :=
  if chars = "Infinity".toList then .infinity false
  else ((decimal? chars).map Decimal.number).getD .notANumber

def ofSigned (chars : List Char) : Number :=
  let (negative, rest) := splitSign chars
  if negative then (ofUnsigned rest).negate else ofUnsigned rest

def ofMarked (base : Nat) (chars : List Char) : Number :=
  ((wholeIn? base chars).map fun count => nearest count).getD .notANumber

def ofNumeral : List Char → Number
  | [] => ofInt 0
  | '0' :: mark :: rest =>
      match markedBase? mark with
      | some base => ofMarked base rest
      | none => ofSigned ('0' :: mark :: rest)
  | chars => ofSigned chars

def ofText (text : String) : Number := ofNumeral (Text.strip text.toList)

end AccessNetwork.Number
