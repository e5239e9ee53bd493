import AccessNetwork.Proofs.Stale

/-!
What attaching under `detach` achieves. It takes the terminal off the listing of the owner that it
has at that moment, and of nobody else: a point that lists the terminal without owning it keeps its
stale listing. The terminal is listed once afterwards exactly if there was no such point, that is,
if every pair that an earlier step stranded was healed by a call for that very pair.
-/

namespace AccessNetwork

open AccessNetwork.Identity

set_option autoImplicit false

theorem Association.mem_members_attach_detach_iff (association : Association)
    (joined station : Point) (arriving : Terminal) :
    arriving ∈ (association.attach .detach joined arriving).members station ↔
      station = joined ∨ association.Stale station arriving := by
  rw [mem_members_attach_iff]
  unfold Stale
  by_cases joining : station = joined
  · simp [joining]
  · simp [joining]

namespace World

/-- In a run from an empty network a pair is stale exactly if some step stranded the terminal at
that point, and no call for the pair has come since. -/
theorem stale_iff_since_stranded (shared : SharedGenerator) (steps : List Step) (station : Point)
    (device : Terminal) :
    ((start shared).run steps).association.Stale station device ↔
      (start shared).Since (fun before step => before.Strands station device step)
        (fun _ step => step.Heals station device) steps := by
  refine holds_iff_since_of_invariant (fun world => world.association.WellKept)
    (fun world => world.association.Stale station device) well_kept_step ?_ (start shared)
    Association.well_kept_empty ?_ steps
  · intro before step kept
    rw [stale_step kept, or_comm]
  · intro stale
    exact List.not_mem_nil stale.1

/-- After attaching a terminal under `detach` its owner is the point it arrives at, and it is listed
there; the other points that list it are those that were left with a stale listing of it by an
earlier step, with no call for that very pair since. So it is listed once exactly if there is no
such point, and in particular its owner so far lists it no more. -/
theorem detaching_spares_stale_listings (shared : SharedGenerator) (steps : List Step)
    (station : Point) (device : Terminal) (perCall : Option Policy)
    (detaching : ((start shared).run steps).effectivePolicy perCall = .detach) :
    let before := (start shared).run steps
    let after := before.step (.attach station device perCall)
    after.association.owner device = some station ∧
    device ∈ after.association.members station ∧
    (∀ previous, before.association.owner device = some previous → previous ≠ station →
      device ∉ after.association.members previous) ∧
    (∀ other, other ≠ station →
      (device ∈ after.association.members other ↔ before.association.Stale other device)) ∧
    (∀ other, before.association.Stale other device ↔
      (start shared).Since (fun earlier step => earlier.Strands other device step)
        (fun _ step => step.Heals other device) steps) ∧
    ((∀ other, device ∈ after.association.members other ↔ other = station) ↔
      ∀ other, other ≠ station → ¬before.association.Stale other device) := by
  intro before after
  have listed : ∀ other, device ∈ after.association.members other ↔
      other = station ∨ before.association.Stale other device := by
    intro other
    have detached : before.effectivePolicy perCall = .detach := detaching
    rw [members_step, associationAfter, detached]
    exact before.association.mem_members_attach_detach_iff station other device
  have elsewhere : ∀ other, other ≠ station →
      (device ∈ after.association.members other ↔ before.association.Stale other device) := by
    intro other apart
    rw [listed other]
    exact or_iff_right apart
  refine ⟨?_, (listed station).2 (.inl rfl), ?_, elsewhere,
    fun other => stale_iff_since_stranded shared steps other device, ?_⟩
  · rw [owner_step, associationAfter, Association.owner_attach, if_pos rfl]
  · intro previous owning apart member
    exact ((elsewhere previous apart).1 member).2 owning
  · constructor
    · intro single other apart stale
      exact apart ((single other).1 ((elsewhere other apart).2 stale))
    · intro fresh other
      rw [listed other]
      constructor
      · intro reason
        rcases reason with same | stale
        · exact same
        · by_contra apart
          exact fresh other apart stale
      · exact .inl

def movedUnderRetain : List Step :=
  [.attach ⟨"first"⟩ ⟨"terminal"⟩ none, .attach ⟨"second"⟩ ⟨"terminal"⟩ none]

theorem detaching_takes_from_second_point :
    let before := (start (.unseeded fun _ => 0)).run movedUnderRetain
    let after := before.step (.attach ⟨"third"⟩ ⟨"terminal"⟩ (some .detach))
    before.effectivePolicy (some .detach) = .detach ∧
      before.association.owner ⟨"terminal"⟩ = some ⟨"second"⟩ ∧
      after.association.owner ⟨"terminal"⟩ = some ⟨"third"⟩ ∧
      ⟨"terminal"⟩ ∈ after.association.members ⟨"third"⟩ ∧
      ⟨"terminal"⟩ ∉ after.association.members ⟨"second"⟩ := by
  have detached := detaching_spares_stale_listings (.unseeded fun _ => 0) movedUnderRetain ⟨"third"⟩
    ⟨"terminal"⟩ (some .detach) rfl
  exact ⟨rfl, by decide, detached.1, detached.2.1,
    detached.2.2.1 ⟨"second"⟩ (by decide) (by decide)⟩

/-- Attaching under `detach` need not leave a single listing. The first point did not own the
terminal any more when it moved on, and lists it still. -/
theorem detaching_leaves_second_listing :
    let before := (start (.unseeded fun _ => 0)).run movedUnderRetain
    let after := before.step (.attach ⟨"third"⟩ ⟨"terminal"⟩ (some .detach))
    before.effectivePolicy (some .detach) = .detach ∧
      ¬((∀ other, (⟨"terminal"⟩ : Terminal) ∈ after.association.members other ↔
          other = ⟨"third"⟩) ∧
        after.association.owner ⟨"terminal"⟩ = some ⟨"third"⟩) := by
  refine ⟨rfl, ?_⟩
  intro single
  have same : (⟨"first"⟩ : Point) = ⟨"third"⟩ := (single.1 ⟨"first"⟩).1 (by decide)
  exact absurd same (by decide)

end World

end AccessNetwork
