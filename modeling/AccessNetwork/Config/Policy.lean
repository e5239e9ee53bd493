import AccessNetwork.Schema.Issue

/-!
What happens to the previous owner's listing when a terminal is attached to another point: under
`retain` it stays, under `detach` it goes.
-/

namespace AccessNetwork

open AccessNetwork.Schema

set_option autoImplicit false

inductive Policy where
  | retain
  | detach
  deriving DecidableEq, Repr

namespace Policy

def word : Policy → String
  | .retain => "retain"
  | .detach => "detach"

def words : List String := [Policy.retain.word, Policy.detach.word]

/-- The policy asked for in a single call, if any. Only one word asks for detaching. -/
def requested? : Value → Option Policy
  | .absent => none
  | .null => none
  | .text given => some (if given = Policy.detach.word then .detach else .retain)
  | _ => some .retain

def validate : Value → Except Defect Policy
  | .text given =>
      if given = Policy.retain.word then .ok .retain
      else if given = Policy.detach.word then .ok .detach
      else .error (.unknownChoice words given)
  | value => .error (.wrongKind (.choice words) value.kind)

end Policy

end AccessNetwork
