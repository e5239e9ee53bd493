import AccessNetwork.Proofs.Moments
import AccessNetwork.Proofs.Views
import Mathlib.Data.List.Nodup

/-!
What attaching and releasing do to listings and owners, as one equation for each view. From these
equations, the two facts that every run keeps: an owner lists its terminals, and no point lists a
terminal twice. The converse of the first, that a point owns what it lists, is not kept.
-/

namespace AccessNetwork

open AccessNetwork.Identity

set_option autoImplicit false

namespace Association

theorem foreign_owner_eq_some_iff (association : Association) (joined station : Point)
    (device : Terminal) :
    association.foreignOwner joined device = some station ↔
      association.owner device = some station ∧ station ≠ joined := by
  simp [foreignOwner]

/-- An association made ready for an arrival: under `detach` a foreign owner no longer lists it. -/
def settled (association : Association) (policy : Policy) (joined : Point) (arriving : Terminal) :
    Association :=
  match policy, association.foreignOwner joined arriving with
  | .detach, some previous => association.strike previous arriving
  | _, _ => association

theorem attach_eq_settled (association : Association) (policy : Policy) (joined : Point)
    (arriving : Terminal) :
    association.attach policy joined arriving =
      ((association.settled policy joined arriving).enlist joined arriving).refer arriving joined :=
  rfl

theorem owner_settled (association : Association) (policy : Policy) (joined : Point)
    (arriving device : Terminal) :
    (association.settled policy joined arriving).owner device = association.owner device := by
  unfold settled
  split
  · exact association.owner_strike _ arriving device
  · rfl

theorem members_settled (association : Association) (policy : Policy) (joined station : Point)
    (arriving : Terminal) :
    (association.settled policy joined arriving).members station =
      if policy = .detach ∧ association.owner arriving = some station ∧ station ≠ joined then
        (association.members station).filter (· != arriving)
      else association.members station := by
  rcases policy with _ | _
  · simp [settled]
  · rcases found : association.foreignOwner joined arriving with _ | previous
    · have staying : ¬(association.owner arriving = some station ∧ station ≠ joined) := by
        rw [← foreign_owner_eq_some_iff, found]
        simp
      simp [settled, found, staying]
    · have foreign := (association.foreign_owner_eq_some_iff joined previous arriving).1 found
      by_cases owning : station = previous
      · subst station
        simp [settled, found, members_strike, foreign]
      · have apart : ¬previous = station := fun equal => owning equal.symm
        simp [settled, found, members_strike, foreign.1, owning, apart]

theorem owner_attach (association : Association) (policy : Policy) (joined : Point)
    (arriving device : Terminal) :
    (association.attach policy joined arriving).owner device =
      if device = arriving then some joined else association.owner device := by
  rw [attach_eq_settled, owner_refer, owner_enlist, owner_settled]

theorem members_attach (association : Association) (policy : Policy) (joined station : Point)
    (arriving : Terminal) :
    (association.attach policy joined arriving).members station =
      if station = joined then
        if arriving ∈ association.members joined then association.members joined
        else association.members joined ++ [arriving]
      else if policy = .detach ∧ association.owner arriving = some station then
        (association.members station).filter (· != arriving)
      else association.members station := by
  rw [attach_eq_settled, members_refer, members_enlist]
  by_cases same : station = joined
  · by_cases listed : arriving ∈ association.members joined <;>
      simp [members_settled, same, listed]
  · simp [members_settled, same]

theorem mem_members_attach_iff (association : Association) (policy : Policy)
    (joined station : Point) (arriving device : Terminal) :
    device ∈ (association.attach policy joined arriving).members station ↔
      (station = joined ∧ device = arriving) ∨
        (device ∈ association.members station ∧
          ¬(device = arriving ∧ station ≠ joined ∧ policy = .detach ∧
            association.owner arriving = some station)) := by
  rw [members_attach]
  by_cases joining : station = joined
  · subst station
    by_cases listed : arriving ∈ association.members joined
    · have already : device = arriving → device ∈ association.members joined :=
        fun same => same ▸ listed
      simpa [listed] using already
    · simp [listed, or_comm]
  · by_cases struck : policy = .detach ∧ association.owner arriving = some station
    · simp [joining, struck]
    · have kept : ¬(device = arriving ∧ station ≠ joined ∧ policy = .detach ∧
          association.owner arriving = some station) :=
        fun leaving => struck leaving.2.2
      rw [if_neg joining, if_neg struck]
      simp only [joining, kept, false_and, false_or, not_false_eq_true, and_true]

theorem owner_release (association : Association) (left : Point) (leaving device : Terminal) :
    (association.release left leaving).owner device =
      if device = leaving then none else association.owner device := by
  simp only [release, owner_unrefer, owner_strike]

theorem members_release (association : Association) (left station : Point) (leaving : Terminal) :
    (association.release left leaving).members station =
      if station = left then (association.members left).filter (· != leaving)
      else association.members station := by
  simp only [release, members_unrefer, members_strike]

theorem mem_members_release_iff (association : Association) (left station : Point)
    (leaving device : Terminal) :
    device ∈ (association.release left leaving).members station ↔
      device ∈ association.members station ∧ ¬(station = left ∧ device = leaving) := by
  rw [members_release]
  by_cases same : station = left <;> simp [same]

/-- What the operations keep. A listed terminal may well belong to somebody else, or to nobody. -/
structure WellKept (association : Association) : Prop where
  listed : ∀ station device, association.owner device = some station →
    device ∈ association.members station
  distinct : ∀ station, (association.members station).Nodup

theorem well_kept_empty : empty.WellKept := by
  constructor
  · intro station device owning
    simp at owning
  · intro station
    exact List.nodup_nil

theorem well_kept_of_same_views {left right : Association} (same : left.SameViews right)
    (kept : right.WellKept) : left.WellKept := by
  constructor
  · intro station device owning
    rw [same.owner] at owning
    rw [same.members]
    exact kept.listed station device owning
  · intro station
    rw [same.members]
    exact kept.distinct station

theorem well_kept_attach {association : Association} (kept : association.WellKept) (policy : Policy)
    (joined : Point) (arriving : Terminal) :
    (association.attach policy joined arriving).WellKept := by
  constructor
  · intro station device owning
    rw [owner_attach] at owning
    rw [mem_members_attach_iff]
    by_cases same : device = arriving
    · rw [if_pos same, Option.some_inj] at owning
      exact .inl ⟨owning.symm, same⟩
    · rw [if_neg same] at owning
      exact .inr ⟨kept.listed station device owning, fun leaving => same leaving.1⟩
  · intro station
    rw [members_attach]
    split_ifs with joining listed
    · exact kept.distinct joined
    · rw [List.nodup_append]
      refine ⟨kept.distinct joined, List.nodup_singleton arriving, ?_⟩
      intro device member other single equal
      rw [List.mem_singleton] at single
      exact listed (single ▸ equal ▸ member)
    · exact (kept.distinct station).filter _
    · exact kept.distinct station

theorem well_kept_release {association : Association} (kept : association.WellKept) (left : Point)
    (leaving : Terminal) : (association.release left leaving).WellKept := by
  constructor
  · intro station device owning
    rw [owner_release] at owning
    by_cases same : device = leaving
    · simp [same] at owning
    · rw [if_neg same] at owning
      rw [mem_members_release_iff]
      exact ⟨kept.listed station device owning, fun leaving => same leaving.2⟩
  · intro station
    rw [members_release]
    split_ifs
    · exact (kept.distinct left).filter _
    · exact kept.distinct station

theorem well_kept_reclaim {association : Association} (kept : association.WellKept)
    (reclaimed : Point) : (association.reclaim reclaimed).WellKept := by
  constructor
  · intro station device owning
    rw [owner_reclaim] at owning
    rw [members_reclaim]
    split_ifs at owning
    exact kept.listed station device owning
  · intro station
    exact kept.distinct station

end Association

namespace World

theorem well_kept_step (world : World) (step : Step) (kept : world.association.WellKept) :
    (world.step step).association.WellKept := by
  apply Association.well_kept_of_same_views (world.same_views_step step)
  cases step with
  | attach station device policy => exact Association.well_kept_attach kept _ station device
  | release station device => exact Association.well_kept_release kept station device
  | reclaim station => exact Association.well_kept_reclaim kept station
  | _ => exact kept

theorem well_kept_run (shared : SharedGenerator) (steps : List Step) :
    ((start shared).run steps).association.WellKept :=
  run_invariant (fun world => world.association.WellKept) well_kept_step (start shared)
    Association.well_kept_empty steps

end World

end AccessNetwork
