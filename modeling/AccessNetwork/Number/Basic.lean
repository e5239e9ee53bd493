/-!
Numbers that name nodes, fill address levels and bound generators. A number is a rational, an
infinity or not a number. The two zeros are one value here, because nothing this library writes
tells them apart. That a finite number is representable in binary64 is not part of the type: it is
what `AccessNetwork.Number.nearest` delivers.
-/

namespace AccessNetwork

set_option autoImplicit false

inductive Number where
  | notANumber
  | infinity (negative : Bool)
  | finite (value : Rat)
  deriving DecidableEq, Repr

namespace Number

def ofInt (value : Int) : Number := .finite value

instance : Inhabited Number := ⟨ofInt 0⟩

def integer? : Number → Option Int
  | .finite value => if value.den = 1 then some value.num else none
  | _ => none

theorem integer_of_int (value : Int) : (ofInt value).integer? = some value := rfl

theorem integer_eq_some_iff (number : Number) (value : Int) :
    number.integer? = some value ↔ number = ofInt value := by
  constructor
  · intro read
    cases number with
    | notANumber => simp [integer?] at read
    | infinity negative => simp [integer?] at read
    | finite fraction =>
        simp only [integer?] at read
        split at read
        · rename_i whole
          have numerator : fraction.num = value := by simpa using read
          have same : fraction = (value : Rat) := by
            apply Rat.ext
            · simpa using numerator
            · simpa using whole
          rw [same]
          rfl
        · simp at read
  · rintro rfl
    exact integer_of_int value

def isNegative : Number → Bool
  | .notANumber => false
  | .infinity negative => negative
  | .finite value => value.num < 0

def negate : Number → Number
  | .notANumber => .notANumber
  | .infinity negative => .infinity !negative
  | .finite value => .finite (-value)

theorem is_negative_of_int (value : Int) : (ofInt value).isNegative = decide (value < 0) := rfl

/-- The fraction is cut off and the rest taken modulo 2^32; what is not finite counts as zero. -/
def toWord : Number → UInt32
  | .finite value => UInt32.ofInt (value.num.tdiv value.den)
  | _ => 0

theorem to_word_of_int (value : Int) : (ofInt value).toWord = UInt32.ofInt value := by
  simp [toWord, ofInt]

end Number

end AccessNetwork
