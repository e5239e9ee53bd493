import AccessNetwork.Address.Basic
import AccessNetwork.Value.Coercion

/-!
Addresses that were never read: whatever an unchecked value holds under the names of the levels, as
long as it can be written out and is not null. Its further entries play no part in the tag, and the
addresses above keep them. An item that is no number is spelled out as text, brought to two 16-bit
units at least. Addresses that were read are among these, with the same tag, kind and ancestors:
`tag_of_address`, `kind_name_of_address` and `ancestors_of_address`.
-/

namespace AccessNetwork

open AccessNetwork.Numeral

set_option autoImplicit false

structure LooseAddress where
  levels : Address Written
  others : List (String × Value)

namespace LooseAddress

/-- What a level holds, if a tag can be made of it. A level that is absent holds nothing. -/
def levelItem? : Value → Option (Option Written)
  | .absent => some none
  | .null => none
  | item => item.written?.map some

def ofValue? (value : Value) : Option LooseAddress := do
  if value.isMissing then none
  let net ← levelItem? (value.entry Level.net.name)
  let hub ← levelItem? (value.entry Level.hub.name)
  let ap ← levelItem? (value.entry Level.ap.name)
  let rt ← levelItem? (value.entry Level.rt.name)
  return ⟨⟨net, hub, ap, rt⟩,
    value.listing.filter fun entry => !entry.2.isAbsent && !Level.names.contains entry.1⟩

/-- How many 16-bit units a text takes up: a character beyond them takes up two. -/
def width (chars : List Char) : Nat :=
  chars.length + (chars.filter fun char => UInt16.size ≤ char.toNat).length

def digits (item : Written) : List Char :=
  match item.value with
  | .number value => Address.digits value
  | .bigInteger value => Address.digits (Number.ofInt value)
  | _ =>
      let chars := item.spelling.toList
      zeros (2 - width chars) ++ chars

def tagChars (address : LooseAddress) : List Char := address.levels.spell digits

def tag (address : LooseAddress) : String := String.ofList address.tagChars

def equals (left right : LooseAddress) : Bool := left.tag == right.tag

def kindName (address : LooseAddress) : String := address.levels.kindName

def ancestors (address : LooseAddress) : List LooseAddress :=
  address.levels.ancestors.map fun levels => { address with levels := levels }

def ofAddress (address : Address Number) : LooseAddress := ⟨address.mapItems .number, []⟩

@[simp] theorem digits_number (number : Number) : digits (.number number) = Address.digits number :=
  rfl

@[simp] theorem tag_of_address (address : Address Number) :
    (ofAddress address).tag = address.tag := by
  simp [tag, tagChars, ofAddress, Address.tag, Address.tagChars, Address.spell, Function.comp_def]

@[simp] theorem kind_name_of_address (address : Address Number) :
    (ofAddress address).kindName = address.kindName := by
  simp [kindName, ofAddress, Address.kindName]

theorem ancestors_of_address (address : Address Number) :
    (ofAddress address).ancestors = address.ancestors.map ofAddress := by
  simp [ancestors, ofAddress, Address.ancestors_map_items, Function.comp_def]

end LooseAddress

end AccessNetwork
