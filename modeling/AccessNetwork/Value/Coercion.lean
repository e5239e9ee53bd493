import AccessNetwork.Numeral.Layout
import AccessNetwork.Numeral.Reading
import AccessNetwork.Value

/-!
Unchecked values where a text or a number is wanted. A list is the texts of its items between
commas, with nothing for an item that is absent or null. A symbol has no text, and neither has a
record with an entry of its own under the name of the method that writes it out; of functions and
dates the text is not kept. A list that holds one of these has no text either. A number is read from
the text of every value that has none of its own; big integers do not mix with numbers.
-/

namespace AccessNetwork

open AccessNetwork.Numeral

set_option autoImplicit false

namespace Value

def integerText (value : Int) : String :=
  let digits := Nat.toDigits 10 value.natAbs
  String.ofList (if value < 0 then '-' :: digits else digits)

def hasEntry (key : String) (entries : List (String × Value)) : Bool := entries.any (·.1 == key)

mutual

def text? : Value → Option String
  | .absent => some "undefined"
  | .null => some "null"
  | .boolean value => some (if value then "true" else "false")
  | .number value => some value.text
  | .text value => some value
  | .bigInteger value => some (integerText value)
  | .symbol => none
  | .function => none
  | .date => none
  | .map => some "[object Map]"
  | .set => some "[object Set]"
  | .list items => (itemTexts? items).map (String.intercalate ",")
  | .record entries => if hasEntry "toString" entries then none else some "[object Object]"

def itemTexts? : List Value → Option (List String)
  | [] => some []
  | .absent :: rest => (itemTexts? rest).map ("" :: ·)
  | .null :: rest => (itemTexts? rest).map ("" :: ·)
  | item :: rest => item.text?.bind fun text => (itemTexts? rest).map (text :: ·)

end

/-- The text of a function is no numeral, whatever it is. -/
def number? : Value → Option Number
  | .absent => some .notANumber
  | .null => some (Number.ofInt 0)
  | .boolean value => some (Number.ofInt (if value then 1 else 0))
  | .number value => some value
  | .bigInteger _ => none
  | .function => some .notANumber
  | .record entries =>
      if hasEntry "valueOf" entries || hasEntry "toString" entries then none
      else some .notANumber
  | value => value.text?.map Number.ofText

end Value

@[ext]
structure Written where
  value : Value
  written : value.text?.isSome = true

namespace Written

def absent : Written := ⟨.absent, rfl⟩

def number (number : Number) : Written := ⟨.number number, rfl⟩

def text (text : String) : Written := ⟨.text text, rfl⟩

def spelling (written : Written) : String := written.value.text?.get written.written

instance : Inhabited Written := ⟨absent⟩

end Written

def Value.written? (value : Value) : Option Written :=
  if written : value.text?.isSome = true then some ⟨value, written⟩ else none

end AccessNetwork
