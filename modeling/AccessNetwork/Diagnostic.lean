import AccessNetwork.Config.Basic

/-!
What is written for diagnosis, when it is switched on: an attachment that leaves a listing behind,
a release that clears the reference to another point, and an environment that was passed over. The
nodes are named by their labels at that moment.
-/

namespace AccessNetwork

set_option autoImplicit false

inductive Diagnostic where
  | stillListed (device station previous : String)
  | clearedOwner (previous device station : String)
  | ignoredEnvironment (error : ConfigError)
  deriving DecidableEq, Repr

def Diagnostic.text : Diagnostic → String
  | .stillListed device station previous =>
      "addMember: " ++ device ++ " moved to " ++ station ++
        " but is still listed under " ++ previous
  | .clearedOwner previous device station =>
      "removeMember: clearing owner " ++ previous ++ " of " ++ device ++ " via " ++ station
  | .ignoredEnvironment error =>
      "getConfig: ignoring invalid environment (" ++ error.message ++ "), using defaults"

end AccessNetwork
