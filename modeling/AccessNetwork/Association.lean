import AccessNetwork.Config.Policy
import AccessNetwork.Entity
import AccessNetwork.Table

/-!
Who lists whom and who belongs to whom. A point lists terminals in the order in which they came,
each once. A terminal refers back to the point that it was last attached to. The two sides agree
unless a terminal was attached elsewhere under `retain` or released through another point. The back
reference does not keep a point: once a point is reclaimed the references to it dangle, read as no
owner, and are forgotten when somebody asks. A listing is opened, empty, when it is first asked for.
-/

namespace AccessNetwork

set_option autoImplicit false

inductive BackReference where
  | live (station : Point)
  | dangling
  deriving DecidableEq, Repr

namespace BackReference

def station? : BackReference → Option Point
  | .live station => some station
  | .dangling => none

def reclaim (reclaimed : Point) (reference : BackReference) : BackReference :=
  if reference.station? = some reclaimed then .dangling else reference

theorem station_of_reclaim (reclaimed : Point) (reference : BackReference) :
    (reference.reclaim reclaimed).station? =
      if reference.station? = some reclaimed then none else reference.station? := by
  simp only [reclaim]
  split <;> rfl

end BackReference

structure Association where
  listings : Table Point (List Terminal)
  references : Table Terminal BackReference

namespace Association

def empty : Association := ⟨.empty, .empty⟩

instance : Inhabited Association := ⟨empty⟩

def members (association : Association) (station : Point) : List Terminal :=
  (association.listings.get? station).getD []

def owner (association : Association) (device : Terminal) : Option Point :=
  (association.references.get? device).bind BackReference.station?

def joined (association : Association) (station : Point) (device : Terminal) : Bool :=
  (association.members station).contains device && association.owner device == some station

def Stale (association : Association) (station : Point) (device : Terminal) : Prop :=
  device ∈ association.members station ∧ association.owner device ≠ some station

def enlist (association : Association) (station : Point) (device : Terminal) : Association :=
  if device ∈ association.members station then association
  else
    { association with
      listings := association.listings.set station (association.members station ++ [device]) }

def strike (association : Association) (station : Point) (device : Terminal) : Association :=
  { association with
    listings := association.listings.set station
      ((association.members station).filter (· != device)) }

def refer (association : Association) (device : Terminal) (station : Point) : Association :=
  { association with references := association.references.set device (.live station) }

def unrefer (association : Association) (device : Terminal) : Association :=
  { association with references := association.references.erase device }

/-- The owner that attaching a terminal to a point, or releasing it there, passes over. -/
def foreignOwner (association : Association) (station : Point) (device : Terminal) :
    Option Point :=
  (association.owner device).filter (· != station)

def attach (association : Association) (policy : Policy) (station : Point) (device : Terminal) :
    Association :=
  let settled :=
    match policy, association.foreignOwner station device with
    | .detach, some previous => association.strike previous device
    | _, _ => association
  (settled.enlist station device).refer device station

def release (association : Association) (station : Point) (device : Terminal) : Association :=
  (association.strike station device).unrefer device

def reclaim (association : Association) (station : Point) : Association :=
  { association with references := association.references.mapItems (·.reclaim station) }

def forget (association : Association) (device : Terminal) : Association :=
  match association.references.get? device with
  | some .dangling => association.unrefer device
  | _ => association

def forgetAll (association : Association) (devices : List Terminal) : Association :=
  devices.foldl forget association

def openListing (association : Association) (station : Point) : Association :=
  match association.listings.get? station with
  | some _ => association
  | none => { association with listings := association.listings.set station [] }

def openListings (association : Association) (stations : List Point) : Association :=
  stations.foldl openListing association

@[simp] theorem members_empty (station : Point) : empty.members station = [] := rfl

@[simp] theorem owner_empty (device : Terminal) : empty.owner device = none := rfl

theorem members_enlist (association : Association) (changed station : Point) (device : Terminal) :
    (association.enlist changed device).members station =
      if station = changed ∧ device ∉ association.members changed
      then association.members changed ++ [device]
      else association.members station := by
  by_cases listed : device ∈ association.members changed
  · simp [enlist, listed]
  · rw [enlist, if_neg listed]
    by_cases same : station = changed
    · simp [members, same] at listed ⊢
      simp [listed]
    · simp [members, Table.get_set, same]

theorem members_strike (association : Association) (changed station : Point) (device : Terminal) :
    (association.strike changed device).members station =
      if station = changed then (association.members changed).filter (· != device)
      else association.members station := by
  by_cases same : station = changed
  · simp [strike, members, same]
  · simp [strike, members, Table.get_set, same]

@[simp] theorem members_refer (association : Association) (device : Terminal)
    (referred station : Point) :
    (association.refer device referred).members station = association.members station := rfl

@[simp] theorem members_unrefer (association : Association) (device : Terminal)
    (station : Point) :
    (association.unrefer device).members station = association.members station := rfl

@[simp] theorem members_reclaim (association : Association) (reclaimed station : Point) :
    (association.reclaim reclaimed).members station = association.members station := rfl

@[simp] theorem members_forget (association : Association) (device : Terminal) (station : Point) :
    (association.forget device).members station = association.members station := by
  simp only [forget]
  split <;> rfl

@[simp] theorem members_open_listing (association : Association) (opened station : Point) :
    (association.openListing opened).members station = association.members station := by
  simp only [openListing]
  split
  · rfl
  · rename_i unopened
    by_cases same : station = opened
    · simp [members, same, unopened]
    · simp [members, Table.get_set, same]

@[simp] theorem owner_open_listing (association : Association) (opened : Point)
    (device : Terminal) :
    (association.openListing opened).owner device = association.owner device := by
  simp only [openListing]
  split <;> rfl

@[simp] theorem owner_enlist (association : Association) (station : Point)
    (listed device : Terminal) :
    (association.enlist station listed).owner device = association.owner device := by
  simp only [enlist]
  split <;> rfl

@[simp] theorem owner_strike (association : Association) (station : Point)
    (struck device : Terminal) :
    (association.strike station struck).owner device = association.owner device := rfl

theorem owner_refer (association : Association) (referring device : Terminal) (station : Point) :
    (association.refer referring station).owner device =
      if device = referring then some station else association.owner device := by
  simp only [refer, owner, Table.get_set]
  split <;> rfl

theorem owner_unrefer (association : Association) (cleared device : Terminal) :
    (association.unrefer cleared).owner device =
      if device = cleared then none else association.owner device := by
  simp only [unrefer, owner, Table.get_erase]
  split <;> rfl

theorem owner_reclaim (association : Association) (reclaimed : Point) (device : Terminal) :
    (association.reclaim reclaimed).owner device =
      if association.owner device = some reclaimed then none else association.owner device := by
  rcases found : association.references.get? device with _ | reference
  · simp [reclaim, owner, Table.get_map_items, found]
  · simpa [reclaim, owner, Table.get_map_items, found] using
      reference.station_of_reclaim reclaimed

@[simp] theorem owner_forget (association : Association) (asked device : Terminal) :
    (association.forget asked).owner device = association.owner device := by
  simp only [forget]
  split
  · rename_i dangling
    rw [owner_unrefer]
    split
    · rename_i same
      simp [owner, same, dangling, BackReference.station?]
    · rfl
  · rfl

end Association

end AccessNetwork
