import AccessNetwork.Proofs.Indistinguishable

/-!
Attaching under `detach`, spelled out. It does what a caller does who first releases the terminal at
the owner that it is taken from and then attaches it under `retain`. Put in place of every detaching
attachment of a run, these steps leave worlds that cannot be told apart from those of the run, and
write the same lines.
-/

namespace AccessNetwork

open AccessNetwork.Identity

set_option autoImplicit false

namespace Association

theorem foreign_owner_of_owner {association : Association} {station : Point} {device : Terminal}
    (owning : association.owner device = some station) :
    association.foreignOwner station device = none := by
  simp [foreignOwner, owning]

theorem attach_of_no_foreign_owner {association : Association} {joined : Point}
    {arriving : Terminal} (free : association.foreignOwner joined arriving = none)
    (policy : Policy) :
    association.attach policy joined arriving = association.attach .retain joined arriving := by
  cases policy with
  | retain => rfl
  | detach => simp only [attach, free]

/-- Releasing clears the owner as well, which the attachment sets again. -/
theorem same_views_release_then_attach {association : Association} {joined previous : Point}
    {arriving : Terminal} (foreign : association.foreignOwner joined arriving = some previous) :
    ((association.release previous arriving).attach .retain joined arriving).SameViews
      (association.attach .detach joined arriving) := by
  obtain ⟨owning, apart⟩ :=
    (association.foreign_owner_eq_some_iff joined previous arriving).1 foreign
  have elsewhere : ¬joined = previous := fun same => apart same.symm
  constructor
  · intro station
    rw [members_attach, members_attach, members_release, members_release, if_neg elsewhere]
    by_cases joining : station = joined
    · simp [joining]
    · by_cases leaving : station = previous
      · simp [leaving, owning]
      · have staying : ¬previous = station := fun same => leaving same.symm
        simp [joining, leaving, owning, staying]
  · intro device
    rw [owner_attach, owner_attach, owner_release]
    split <;> rfl

end Association

namespace World

/-- What a caller does in place of a step: for an attachment under `detach`, a release at the owner
that the terminal is taken from, if there is one, and an attachment under `retain`. -/
def spelledOut (world : World) : Step → List Step
  | .attach station device policy =>
      match world.effectivePolicy policy with
      | .retain => [.attach station device policy]
      | .detach =>
          ((world.association.foreignOwner station device).map
            (Step.release · device)).toList ++ [.attach station device (some .retain)]
  | step => [step]

def Retains (world : World) : Step → Prop
  | .attach _ _ policy => world.effectivePolicy policy = .retain
  | _ => True

theorem retains_of_indistinguishable {left right : World} (same : Indistinguishable left right)
    (step : Step) : left.Retains step ↔ right.Retains step := by
  cases step with
  | attach station device policy =>
      rw [Retains, Retains, effective_policy_of_indistinguishable same]
  | _ => exact Iff.rfl

theorem obeys_retains_of_indistinguishable {left right : World}
    (same : Indistinguishable left right) {steps : List Step}
    (retaining : right.Obeys Retains steps) : left.Obeys Retains steps := by
  intro position step found
  rw [retains_of_indistinguishable (indistinguishable_run same (steps.take position))]
  exact retaining position step found

/-- These steps do what one step does, and attach nothing under `detach`. -/
structure SpellsOut (world : World) (steps : List Step) (step : Step) : Prop where
  same : Indistinguishable (world.run steps) (world.step step)
  lines : world.gather log steps = world.log step
  retaining : world.Obeys Retains steps

theorem spells_out_itself {world : World} {step : Step} (retaining : world.Retains step) :
    world.SpellsOut [step] step := by
  constructor
  · exact Indistinguishable.refl (world.step step)
  · rw [gather, gather, List.append_nil]
  · exact (world.obeys_single_iff Retains step).2 retaining

section Detaching

variable {world : World} {station : Point} {device : Terminal} {policy : Option Policy}
  (detaching : world.effectivePolicy policy = .detach)

include detaching

theorem log_of_detaching :
    world.log (.attach station device policy) = world.readingLog := by
  simp [log, attachLog, detaching]

theorem spells_out_of_no_foreign_owner
    (free : world.association.foreignOwner station device = none) :
    world.SpellsOut [.attach station device (some .retain)] (.attach station device policy) := by
  have attached : world.step (.attach station device (some .retain)) =
      world.step (.attach station device policy) := by
    rw [World.step, World.step, attach, attach, detaching,
      Association.attach_of_no_foreign_owner free .detach]
    rfl
  have written : world.log (.attach station device (some .retain)) =
      world.log (.attach station device policy) := by
    rw [log_of_detaching detaching]
    simp [log, attachLog, free]
  have itself : world.SpellsOut [.attach station device (some .retain)]
      (.attach station device (some .retain)) := spells_out_itself rfl
  exact ⟨attached ▸ itself.same, itself.lines.trans written, itself.retaining⟩

/-- The release reads no configuration, so it is the attachment that reads it, as before. -/
theorem spells_out_of_foreign_owner {previous : Point}
    (foreign : world.association.foreignOwner station device = some previous) :
    world.SpellsOut [.release previous device, .attach station device (some .retain)]
      (.attach station device policy) := by
  have owning := ((world.association.foreign_owner_eq_some_iff station previous device).1 foreign).1
  have own := Association.foreign_owner_of_owner owning
  have released : world.step (.release previous device) =
      { world with association := world.association.release previous device } := by
    simp [World.step, release, own]
  have unowned : (world.association.release previous device).foreignOwner station device = none := by
    simp [Association.foreignOwner, Association.owner_release]
  constructor
  · have moved := Association.same_views_release_then_attach foreign
    -- Outside the association the two agree: both have read the configuration once.
    rw [run, List.foldl_cons, List.foldl_cons, List.foldl_nil, released, World.step, World.step,
      attach, attach, detaching]
    exact ⟨moved, fun _ => rfl, rfl, rfl, rfl, rfl⟩
  · rw [gather, gather, gather, released, log_of_detaching detaching]
    simp only [log, releaseLog, own, attachLog, unowned]
    simp [readingLog]
  · have releasing : world.Obeys Retains [.release previous device] :=
      (world.obeys_single_iff Retains _).2 trivial
    exact (world.obeys_snoc Retains [.release previous device] _).2 ⟨releasing, rfl⟩

end Detaching

theorem spells_out_step (world : World) (step : Step) :
    world.SpellsOut (world.spelledOut step) step := by
  cases step with
  | attach station device policy =>
      cases effective : world.effectivePolicy policy with
      | retain =>
          simp only [spelledOut, effective]
          exact spells_out_itself effective
      | detach =>
          cases foreign : world.association.foreignOwner station device with
          | none =>
              simp only [spelledOut, effective, foreign]
              exact spells_out_of_no_foreign_owner effective foreign
          | some previous =>
              simp only [spelledOut, effective, foreign]
              exact spells_out_of_foreign_owner effective foreign
  | _ => exact spells_out_itself trivial

/-- The square of one step, pasted along the run: what a step is spelled out as is read off the run
itself, and does the same in a world that cannot be told apart. -/
theorem spelled_out_run (world : World) (steps : List Step) :
    Indistinguishable (world.run (world.gather spelledOut steps)) (world.run steps) ∧
      world.gather log (world.gather spelledOut steps) = world.gather log steps ∧
      world.Obeys Retains (world.gather spelledOut steps) := by
  induction steps using List.reverseRecOn with
  | nil =>
      refine ⟨Indistinguishable.refl world, rfl, ?_⟩
      intro position step found
      simp [gather] at found
  | append_singleton steps step induction =>
      obtain ⟨same, written, retaining⟩ := induction
      have spelled := (world.run steps).spells_out_step step
      rw [gather_snoc, gather_snoc, run_append, run_snoc, gather_append, obeys_append, written,
        gather_log_of_indistinguishable same, spelled.lines]
      exact ⟨(indistinguishable_run same _).trans spelled.same, rfl, retaining,
        obeys_retains_of_indistinguishable same spelled.retaining⟩

/-- Take any run from an empty network, and in place of each attachment under `detach` a release at
the owner that the terminal is taken from, if there is one, and an attachment under `retain`. In the
new run nothing is attached under `detach`. At the end of each part of the run, the corresponding
part of the new one has led to a world that cannot be told apart, with the same owners, listings,
counts and settings, and has written the same lines. -/
theorem detaching_is_releasing_then_attaching (shared : SharedGenerator) (steps : List Step) :
    let spelled := (start shared).gather spelledOut
    (start shared).Obeys Retains (spelled steps) ∧
      ∀ count,
        let part := steps.take count
        spelled part <+: spelled steps ∧
          Indistinguishable ((start shared).run (spelled part)) ((start shared).run part) ∧
          (start shared).gather log (spelled part) = (start shared).gather log part := by
  intro spelled
  refine ⟨((start shared).spelled_out_run steps).2.2, ?_⟩
  intro count part
  obtain ⟨same, written, _⟩ := (start shared).spelled_out_run part
  refine ⟨?_, same, written⟩
  have whole := (start shared).gather_append spelledOut part (steps.drop count)
  rw [List.take_append_drop] at whole
  exact ⟨_, whole.symm⟩

example :
    (start (.unseeded fun _ => 0)).gather spelledOut
        [.attach ⟨"first"⟩ ⟨"terminal"⟩ none, .attach ⟨"second"⟩ ⟨"terminal"⟩ (some .detach)] =
      [.attach ⟨"first"⟩ ⟨"terminal"⟩ none, .release ⟨"first"⟩ ⟨"terminal"⟩,
        .attach ⟨"second"⟩ ⟨"terminal"⟩ (some .retain)] := rfl

end World

end AccessNetwork
