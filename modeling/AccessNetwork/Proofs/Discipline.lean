import AccessNetwork.Proofs.Inspection
import AccessNetwork.Proofs.Stale

/-!
When listing and owning are the same all along a run. A disciplined step passes over no owner: it
attaches a terminal only under `detach` or where nobody else owns it, releases it only where nobody
else owns it, and reclaims only a point that owns nothing. Discipline at every step is not only
enough but needed, since the owner that is passed over keeps the terminal in its listing.
-/

namespace AccessNetwork

open AccessNetwork.Identity

set_option autoImplicit false

theorem Association.two_sided_iff_not_stale {association : Association}
    (kept : association.WellKept) :
    association.TwoSided ↔ ∀ station device, ¬association.Stale station device := by
  constructor
  · intro agreeing station device stale
    exact stale.2 ((agreeing station device).1 stale.1)
  · intro fresh station device
    constructor
    · intro member
      by_contra foreign
      exact fresh station device ⟨member, foreign⟩
    · exact kept.listed station device

theorem Association.single_listing {association : Association} (agreeing : association.TwoSided)
    {device : Terminal} {station other : Point} (one : device ∈ association.members station)
    (another : device ∈ association.members other) : station = other := by
  have owning := (agreeing station device).1 one
  rw [(agreeing other device).1 another] at owning
  exact (Option.some.inj owning).symm

namespace World

def Disciplined (world : World) : Step → Prop
  | .attach station device policy =>
      world.effectivePolicy policy = .detach ∨ world.association.owner device = none ∨
        world.association.owner device = some station
  | .release station device =>
      world.association.owner device = none ∨ world.association.owner device = some station
  | .reclaim station => ∀ device, world.association.owner device ≠ some station
  | _ => True

theorem disciplined_iff_strands_nobody (world : World) (step : Step) :
    world.Disciplined step ↔ ∀ station device, ¬world.Strands station device step := by
  cases step with
  | attach joined arriving policy =>
      cases owning : world.association.owner arriving with
      | none => simp [Disciplined, Strands, owning]
      | some previous =>
          by_cases same : previous = joined <;> simp [Disciplined, Strands, owning, same]
  | release left leaving =>
      cases owning : world.association.owner leaving with
      | none => simp [Disciplined, Strands, owning]
      | some previous => simp [Disciplined, Strands, owning]
  | reclaim reclaimed =>
      constructor
      · intro unowned station device stranded
        exact unowned device stranded.2
      · intro unstranded device owning
        exact unstranded reclaimed device ⟨rfl, owning⟩
  | _ => simp [Disciplined, Strands]

theorem two_sided_step_iff {world : World} (kept : world.association.WellKept)
    (agreeing : world.association.TwoSided) (step : Step) :
    (world.step step).association.TwoSided ↔ world.Disciplined step := by
  rw [Association.two_sided_iff_not_stale (well_kept_step world step kept),
    disciplined_iff_strands_nobody]
  have fresh := (Association.two_sided_iff_not_stale kept).1 agreeing
  simp only [stale_step kept, fresh, false_and, false_or]

theorem two_sided_throughout_iff (shared : SharedGenerator) (steps : List Step) :
    (start shared).Throughout (fun world => world.association.TwoSided) steps ↔
      (start shared).Obeys Disciplined steps := by
  induction steps using List.reverseRecOn with
  | nil =>
      constructor
      · intro _ position step found
        simp at found
      · intro _ count station device
        simp [run, start]
  | append_singleton steps step induction =>
      rw [throughout_snoc, obeys_snoc, ← induction]
      apply and_congr_right
      intro agreeing
      have now := agreeing steps.length
      rw [List.take_length] at now
      exact two_sided_step_iff (well_kept_run shared steps) now step

theorem obeys_release_then_attach {shared : SharedGenerator} {steps : List Step}
    (disciplined : (start shared).Obeys Disciplined steps) {device : Terminal} {previous : Point}
    (owning : ((start shared).run steps).association.owner device = some previous)
    (station : Point) (policy : Option Policy) :
    (start shared).Obeys Disciplined
      ((steps ++ [.release previous device]) ++ [.attach station device policy]) := by
  rw [obeys_snoc, obeys_snoc, run_snoc]
  have released : (((start shared).run steps).step (.release previous device)).association.owner
      device = none := by
    rw [owner_step, associationAfter, Association.owner_release, if_pos rfl]
  exact ⟨⟨disciplined, .inr owning⟩, .inr (.inl released)⟩

/-- Listing and owning are the same in every world of a run from an empty network exactly if every
step is disciplined. In such a run nobody is listed twice, every inspection finds the network
consistent, and moving a terminal by a release at its owner and an attachment keeps the run such,
under any policy. -/
theorem agreement_iff_discipline (shared : SharedGenerator) (steps : List Step) :
    ((∀ count, ((start shared).run (steps.take count)).association.TwoSided) ↔
      ∀ position step, steps[position]? = some step →
        ((start shared).run (steps.take position)).Disciplined step) ∧
    ((start shared).Obeys Disciplined steps →
      (∀ count, let world := (start shared).run (steps.take count)
        (∀ device station other, device ∈ world.association.members station →
          device ∈ world.association.members other → station = other) ∧
        ∀ entities, world.answer (.consistent entities) = .truth true) ∧
      ∀ device previous, ((start shared).run steps).association.owner device = some previous →
        ∀ station policy, (start shared).Obeys Disciplined
          (steps ++ [.release previous device, .attach station device policy])) := by
  refine ⟨two_sided_throughout_iff shared steps, ?_⟩
  intro disciplined
  constructor
  · intro count world
    have agreeing : world.association.TwoSided :=
      (two_sided_throughout_iff shared steps).2 disciplined count
    constructor
    · intro device station other one another
      exact Association.single_listing agreeing one another
    · intro entities
      rw [answer, Answer.truth.injEq, Association.consistent_iff]
      intro station _ device member
      exact (agreeing station device).1 member
  · intro device previous owning station policy
    have moved := obeys_release_then_attach disciplined owning station policy
    rwa [List.append_assoc] at moved

end World

end AccessNetwork
