import AccessNetwork.Text.Blank
import AccessNetwork.Text.LowerCase

/-!
The grammar of switches given as text: one of four words in any mix of upper and lower case, with
blanks allowed around it, means on. Every other text means off, and none is refused.
-/

namespace AccessNetwork.Text

set_option autoImplicit false

def switchWords : List String := ["1", "true", "yes", "on"]

def isOn (text : String) : Bool :=
  switchWords.contains (String.ofList (lowerCase (strip text.toList)))

theorem is_on_empty : isOn "" = false := by decide

end AccessNetwork.Text
