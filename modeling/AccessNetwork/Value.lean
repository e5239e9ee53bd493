import AccessNetwork.Number.Basic

/-!
Values as they come in unchecked: settings, overrides and addresses before validation. Of what is
not data (dates, functions and the like) only the kind is kept. A record keeps its entries in the
order of their creation; an entry may hold the absent value and is still an entry. A list has its
items for entries and nothing else: entries under further names, which lists, functions, dates,
maps and sets may be given as well, are not kept, nor is whatever has a symbol for its name.
-/

namespace AccessNetwork

set_option autoImplicit false

inductive Value where
  | absent
  | null
  | boolean (value : Bool)
  | number (value : Number)
  | text (value : String)
  | bigInteger (value : Int)
  | symbol
  | function
  | date
  | map
  | set
  | list (items : List Value)
  | record (entries : List (String × Value))
  deriving Inhabited

inductive ValueKind where
  | absent | null | boolean | number | notANumber | text | bigInteger | symbol | function
  | date | map | set | list | promise | record
  deriving DecidableEq, Repr

def ValueKind.name : ValueKind → String
  | .absent => "undefined"
  | .null => "null"
  | .boolean => "boolean"
  | .number => "number"
  | .notANumber => "nan"
  | .text => "string"
  | .bigInteger => "bigint"
  | .symbol => "symbol"
  | .function => "function"
  | .date => "date"
  | .map => "map"
  | .set => "set"
  | .list => "array"
  | .promise => "promise"
  | .record => "object"

namespace Value

def lookup (key : String) (entries : List (String × Value)) : Value :=
  ((entries.reverse.find? (·.1 == key)).map (·.2)).getD .absent

def entry (key : String) : Value → Value
  | .record entries => lookup key entries
  | _ => .absent

def isFunction : Value → Bool
  | .function => true
  | _ => false

/-- A record that can be waited on, by functions under both of these names, is a promise. -/
def kind : Value → ValueKind
  | .absent => .absent
  | .null => .null
  | .boolean _ => .boolean
  | .number .notANumber => .notANumber
  | .number _ => .number
  | .text _ => .text
  | .bigInteger _ => .bigInteger
  | .symbol => .symbol
  | .function => .function
  | .date => .date
  | .map => .map
  | .set => .set
  | .list _ => .list
  | .record entries =>
      if (lookup "then" entries).isFunction && (lookup "catch" entries).isFunction then .promise
      else .record

def isUnset : Value → Bool
  | .absent => true
  | .null => true
  | .boolean value => !value
  | .number .notANumber => true
  | .number value => value == Number.ofInt 0
  | .text value => value == ""
  | .bigInteger value => value == 0
  | _ => false

def isAbsent : Value → Bool
  | .absent => true
  | _ => false

def isMissing : Value → Bool
  | .absent => true
  | .null => true
  | _ => false

/-- The position that a key names, if it is a plain decimal below 2^32 - 1. -/
def indexOfKey? (key : String) : Option Nat :=
  let digits := key.toList
  let position := digits.foldl (fun total digit => total * 10 + (digit.toNat - '0'.toNat)) 0
  if Nat.toDigits 10 position = digits ∧ position < UInt32.size - 1 then some position else none

/-- Keys in the order of enumeration: positions ascending, then names in order of creation. -/
def enumerate (keys : List String) : List String :=
  let distinct := keys.eraseDups
  let positions := (distinct.filterMap indexOfKey?).mergeSort (· ≤ ·)
  positions.map (fun position => String.ofList (Nat.toDigits 10 position)) ++
    distinct.filter fun key => (indexOfKey? key).isNone

def keys : Value → List String
  | .record entries => enumerate (entries.map (·.1))
  | _ => []

def positioned (items : List Value) : List (String × Value) :=
  items.zipIdx.map fun item => (String.ofList (Nat.toDigits 10 item.2), item.1)

/-- What a value holds under its keys, in order: lists and texts hold theirs under positions. -/
def listing : Value → List (String × Value)
  | .record entries =>
      (enumerate (entries.map (·.1))).map fun key => (key, lookup key entries)
  | .list items => positioned items
  | .text value => positioned (value.toList.map fun char => .text (String.singleton char))
  | _ => []

end Value

end AccessNetwork
