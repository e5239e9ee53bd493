import AccessNetwork.Value

/-!
What validation can find wrong with a value, as causes, with the code and the wording of each, and
the grouping of wordings by field in which errors carry them.
-/

namespace AccessNetwork.Schema

set_option autoImplicit false

inductive Expected where
  | record
  | number
  | choice (words : List String)
  deriving DecidableEq, Repr

inductive Defect where
  | wrongKind (expected : Expected) (received : ValueKind)
  | notWhole
  | negative
  | unknownChoice (words : List String) (received : String)
  | noAlternative
  | unknownKeys (keys : List String)
  deriving DecidableEq, Repr

structure Issue where
  field : Option String
  defect : Defect
  deriving DecidableEq, Repr

def quote (word : String) : String := "'" ++ word ++ "'"

def choices (words : List String) : String := String.intercalate " | " (words.map quote)

def Expected.text : Expected → String
  | .record => "object"
  | .number => "number"
  | .choice words => choices words

namespace Defect

def code : Defect → String
  | .wrongKind _ _ => "invalid_type"
  | .notWhole => "invalid_type"
  | .negative => "too_small"
  | .unknownChoice _ _ => "invalid_enum_value"
  | .noAlternative => "invalid_union"
  | .unknownKeys _ => "unrecognized_keys"

def message : Defect → String
  | .wrongKind _ .absent => "Required"
  | .wrongKind expected received => "Expected " ++ expected.text ++ ", received " ++ received.name
  | .notWhole => "Expected integer, received float"
  | .negative => "Number must be greater than or equal to 0"
  | .unknownChoice words received =>
      "Invalid enum value. Expected " ++ choices words ++ ", received " ++ quote received
  | .noAlternative => "Invalid input"
  | .unknownKeys keys =>
      "Unrecognized key(s) in object: " ++ String.intercalate ", " (keys.map quote)

end Defect

/-- Messages by name of the field, fields in the order of their first defect. -/
abbrev FieldMessages := List (String × List String)

def fieldMessages (issues : List Issue) : FieldMessages :=
  (issues.filterMap (·.field)).eraseDups.map fun field =>
    (field, (issues.filter (·.field == some field)).map (·.defect.message))

def wholeMessages (issues : List Issue) : List String :=
  (issues.filter (·.field.isNone)).map (·.defect.message)

end AccessNetwork.Schema
