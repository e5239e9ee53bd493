import AccessNetwork.Run

/-!
What steps do to the association, as far as its two views show: the listing of each point and the
owner of each terminal. Attaching, releasing and reclaiming change it; everything else leaves it as
it is, but for traces of questions that no view shows.
-/

namespace AccessNetwork

set_option autoImplicit false

namespace Association

/-- Nobody who asks for members and owners can tell the two apart. -/
structure SameViews (left right : Association) : Prop where
  members : ∀ station, left.members station = right.members station
  owner : ∀ device, left.owner device = right.owner device

theorem SameViews.refl (association : Association) : association.SameViews association :=
  ⟨fun _ => rfl, fun _ => rfl⟩

theorem SameViews.trans {left middle right : Association} (first : left.SameViews middle)
    (second : middle.SameViews right) : left.SameViews right :=
  ⟨fun station => (first.members station).trans (second.members station),
    fun device => (first.owner device).trans (second.owner device)⟩

theorem same_views_forget_all (association : Association) (devices : List Terminal) :
    (association.forgetAll devices).SameViews association := by
  induction devices generalizing association with
  | nil => exact SameViews.refl association
  | cons device rest induction =>
      have first : (association.forget device).SameViews association :=
        ⟨association.members_forget device, association.owner_forget device⟩
      exact (induction (association.forget device)).trans first

theorem same_views_open_listings (association : Association) (stations : List Point) :
    (association.openListings stations).SameViews association := by
  induction stations generalizing association with
  | nil => exact SameViews.refl association
  | cons station rest induction =>
      have first : (association.openListing station).SameViews association :=
        ⟨association.members_open_listing station, association.owner_open_listing station⟩
      exact (induction (association.openListing station)).trans first

end Association

def Step.Names (device : Terminal) : Step → Prop
  | .attach _ arriving _ => device = arriving
  | .release _ leaving => device = leaving
  | _ => False

namespace World

/-- The association that a step leaves, but for traces that no view shows. -/
def associationAfter (world : World) : Step → Association
  | .attach station device policy =>
      world.association.attach (world.effectivePolicy policy) station device
  | .release station device => world.association.release station device
  | .reclaim station => world.association.reclaim station
  | _ => world.association

theorem same_views_asked (world : World) (devices : List Terminal) :
    (world.asked devices).association.SameViews world.association :=
  world.association.same_views_forget_all devices

theorem same_views_opened (world : World) (stations : List Point) :
    (world.opened stations).association.SameViews world.association :=
  world.association.same_views_open_listings stations

theorem same_views_step (world : World) (step : Step) :
    (world.step step).association.SameViews (world.associationAfter step) := by
  have inspecting (entities : List Entity) :
      (world.inspected entities).association.SameViews world.association :=
    (same_views_asked _ _).trans (world.same_views_opened _)
  cases step with
  | create entity requested =>
      simp only [World.step, create, associationAfter]
      split <;> exact Association.SameViews.refl _
  | describe entity => exact world.same_views_asked _
  | members station => exact world.same_views_opened _
  | owner device => exact world.same_views_asked _
  | associated station device =>
      have opening := world.same_views_opened [station]
      simp only [World.step]
      split
      · exact (same_views_asked _ _).trans opening
      · exact opening
  | validate entities => exact inspecting entities
  | consistent entities => exact inspecting entities
  | beat entity success times =>
      simp only [World.step]
      split
      · exact Association.SameViews.refl _
      · exact same_views_asked _ _
  | heartbeats entity reset =>
      simp only [World.step]
      split <;> exact Association.SameViews.refl _
  | _ => exact Association.SameViews.refl _

theorem members_step (world : World) (step : Step) (station : Point) :
    (world.step step).association.members station =
      (world.associationAfter step).members station :=
  (world.same_views_step step).members station

theorem owner_step (world : World) (step : Step) (device : Terminal) :
    (world.step step).association.owner device = (world.associationAfter step).owner device :=
  (world.same_views_step step).owner device

end World

end AccessNetwork
