import AccessNetwork.Address.Basic
import AccessNetwork.Schema.Issue

/-!
Reading an address from an unchecked value. A value is refused as malformed if it is no record, if
a level is set to anything but a whole number of at least zero, or if it has an entry that is no
level. A well-formed record is refused if a level is set below one that is not; the deepest gap
counts.
-/

namespace AccessNetwork

open AccessNetwork.Schema

set_option autoImplicit false

inductive AddressError where
  | malformed (issues : List Issue)
  | gap (level : Level) (required : Level)
  deriving DecidableEq, Repr

namespace AddressError

def message : AddressError → String
  | .malformed _ => "Invalid address"
  | .gap level required =>
      "If " ++ quote level.name ++ " is set, " ++ quote required.name ++ " must also be set"

/-- Messages by level; those about the whole value come last, under an underscore. -/
def fields : AddressError → FieldMessages
  | .malformed issues =>
      let whole := wholeMessages issues
      fieldMessages issues ++ (if whole.isEmpty then [] else [("_", whole)])
  | .gap level required => [(level.name, ["requires " ++ required.name])]

end AddressError

namespace Address

def levelDefects : Value → List Defect
  | .absent => []
  | .number .notANumber => [.wrongKind .number .notANumber]
  | .number number =>
      (if number.integer?.isNone then [.notWhole] else []) ++
        (if number.isNegative then [.negative] else [])
  | value => [.wrongKind .number value.kind]

def levelNumber : Value → Option Number
  | .number number => some number
  | _ => none

def unknownKeys (value : Value) : List String :=
  value.keys.filter fun key => !Level.names.contains key

def recordIssues (value : Value) : List Issue :=
  let levels := Level.all.flatMap fun level =>
    (levelDefects (value.entry level.name)).map fun defect => ⟨some level.name, defect⟩
  let unknown := unknownKeys value
  levels ++ (if unknown.isEmpty then [] else [⟨none, .unknownKeys unknown⟩])

def issues (value : Value) : List Issue :=
  if value.kind = .record then recordIssues value
  else [⟨none, .wrongKind .record value.kind⟩]

def ofRecord (value : Value) : Address Number :=
  ofLevels fun level => levelNumber (value.entry level.name)

def validate (value : Value) : Except (List Issue) (Address Number) :=
  if (issues value).isEmpty then .ok (ofRecord value) else .error (issues value)

/-- The levels that need another one above them, the deepest first. -/
def requirements : List (Level × Level) := [(.rt, .ap), (.ap, .hub), (.hub, .net)]

def gap? (address : Address Number) : Option (Level × Level) :=
  requirements.find? fun pair =>
    (address.level pair.1).isSome && (address.level pair.2).isNone

def parse (value : Value) : Except AddressError (Address Number) :=
  match validate value with
  | .error issues => .error (.malformed issues)
  | .ok address =>
      match address.gap? with
      | some (level, required) => .error (.gap level required)
      | none => .ok address

end Address

end AccessNetwork
