import AccessNetwork.Config.Policy
import AccessNetwork.Text.Flag

/-!
The configuration: a re-parenting policy and whether diagnostics are written. It is validated from
a record, in which an absent field takes its default and an unknown field is left out, and read
from environment variables, of which one that is unset or empty counts as absent.
-/

namespace AccessNetwork

open AccessNetwork.Schema

set_option autoImplicit false

structure Config where
  policy : Policy
  debug : Bool
  deriving DecidableEq, Repr

structure ConfigError where
  issues : List Issue
  deriving DecidableEq, Repr

/-- Entries are asked of a value that has none because it is absent or null. -/
inductive MissingValue where
  | overrides
  | bindings
  deriving DecidableEq, Repr

namespace ConfigError

def fields (error : ConfigError) : FieldMessages := fieldMessages error.issues

def message (error : ConfigError) : String :=
  "Invalid topology configuration: " ++ String.intercalate ", " (error.fields.map (·.1))

end ConfigError

namespace Config

def standard : Config := ⟨.retain, false⟩

def policyField : String := "reparentPolicy"

def debugField : String := "debug"

def policyVariable : String := "NETSIM_REPARENT_POLICY"

def debugVariable : String := "NETSIM_DEBUG"

end Config

def MissingValue.message : MissingValue → String
  | .overrides => "Cannot convert undefined or null to object"
  | .bindings => "Cannot read properties of null (reading '" ++ Config.policyVariable ++ "')"

namespace Config

def validatePolicy : Value → Except Defect Policy
  | .absent => .ok standard.policy
  | value => Policy.validate value

def validateSwitch : Value → Except Defect Bool
  | .boolean value => .ok value
  | .text given => .ok (Text.isOn given)
  | _ => .error .noAlternative

def validateDebug : Value → Except Defect Bool
  | .absent => .ok standard.debug
  | value => validateSwitch value

def defectsOf {Item : Type} : Except Defect Item → List Defect
  | .ok _ => []
  | .error defect => [defect]

def validateRecord (value : Value) : Except (List Issue) Config :=
  match validatePolicy (value.entry policyField), validateDebug (value.entry debugField) with
  | .ok policy, .ok debug => .ok ⟨policy, debug⟩
  | policy, debug =>
      .error ((defectsOf policy).map (⟨some policyField, ·⟩) ++
        (defectsOf debug).map (⟨some debugField, ·⟩))

def validate (value : Value) : Except (List Issue) Config :=
  if value.kind = .record then validateRecord value
  else .error [⟨none, .wrongKind .record value.kind⟩]

def parse (value : Value) : Except ConfigError Config := (validate value).mapError ConfigError.mk

def setting (bindings : Value) (name : String) : Value :=
  let value := bindings.entry name
  if value.isUnset then .absent else value

def load (bindings : Value) : Except ConfigError Config :=
  parse (.record [(policyField, setting bindings policyVariable),
    (debugField, setting bindings debugVariable)])

def entries (config : Config) : List (String × Value) :=
  [(policyField, .text config.policy.word), (debugField, .boolean config.debug)]

/-- The entries that override something: those under keys that hold a value. Values other than
records come without named entries, and override nothing. -/
def overriding : Value → List (String × Value)
  | .record entries => entries.filter fun entry => !(Value.lookup entry.1 entries).isAbsent
  | _ => []

def override (config : Config) (overrides : Value) : Except ConfigError Config :=
  parse (.record (config.entries ++ overriding overrides))

end Config

end AccessNetwork
