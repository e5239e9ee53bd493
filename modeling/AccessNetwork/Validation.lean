import AccessNetwork.Association

/-!
Inspection of an association from a list of nodes. The points given, the terminals given together
with those that these points list, and the owners of all these terminals are counted; every listing
of a counted point that its terminal does not answer is an issue. Members of a point that was found
only as an owner are examined and not counted.
-/

namespace AccessNetwork

set_option autoImplicit false

/-- A terminal that a point lists, with the owner it has instead, if any. -/
structure StaleListing where
  station : Point
  device : Terminal
  owner : Option Point
  deriving DecidableEq, Repr

structure Report where
  points : List Point
  terminals : List Terminal
  issues : List StaleListing
  deriving DecidableEq, Repr

def Report.consistent (report : Report) : Bool := report.issues.isEmpty

namespace Association

def givenPoints (entities : List Entity) : List Point :=
  (entities.filterMap Entity.point?).eraseDups

def givenTerminals (entities : List Entity) : List Terminal := entities.filterMap Entity.terminal?

/-- The terminals given and those that the given points list, each once, in order of discovery. -/
def inspectedTerminals (association : Association) (entities : List Entity) : List Terminal :=
  (givenTerminals entities ++ (givenPoints entities).flatMap association.members).eraseDups

def inspectedPoints (association : Association) (entities : List Entity) : List Point :=
  (givenPoints entities ++
    (association.inspectedTerminals entities).filterMap association.owner).eraseDups

def staleListings (association : Association) (station : Point) : List StaleListing :=
  ((association.members station).filter fun device =>
    association.owner device != some station).map fun device =>
      ⟨station, device, association.owner device⟩

def validate (association : Association) (entities : List Entity) : Report :=
  let points := association.inspectedPoints entities
  ⟨points, association.inspectedTerminals entities, points.flatMap association.staleListings⟩

def askedTerminals (association : Association) (entities : List Entity) : List Terminal :=
  association.inspectedTerminals entities ++
    (association.inspectedPoints entities).flatMap association.members

end Association

end AccessNetwork
