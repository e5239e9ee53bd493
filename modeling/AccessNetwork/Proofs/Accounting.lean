import AccessNetwork.Proofs.Beats
import AccessNetwork.Proofs.History
import AccessNetwork.Proofs.Tally
import Mathlib.Algebra.BigOperators.Group.Finset.Piecewise

/-!
Heartbeats accounted for over whole runs. The own count of a node is the number of its beats since
its last reset, and its children count the number of beats, since then, of terminals that it owned
at the moment of the beat. A reset hands over all that it takes away, so nothing is lost or counted
twice, whatever happens to owners and listings in the meantime.
-/

namespace AccessNetwork

open AccessNetwork.Identity

set_option autoImplicit false

def Answer.counts : Answer → Heartbeats
  | .heartbeats counts => counts
  | _ => .zero

namespace World

/-- The counts of a node that a step answers with as it resets them. -/
def handedOver (entity : Entity) (world : World) (step : Step) : Heartbeats :=
  if step.restarts entity then (world.answer step).counts else .zero

/-- How often a step beats, with an outcome, terminals that have an owner at that moment. -/
def beatsBelowOwners (outcome : Bool) (world : World) : Step → Nat
  | .beat (.terminal device) success times =>
      if (world.association.owner device).isSome ∧ success = outcome then times else 0
  | _ => 0

theorem handed_over_eq (entity : Entity) (world : World) (step : Step) :
    world.handedOver entity step =
      if step.restarts entity then world.pulse.heartbeats entity else .zero := by
  unfold handedOver
  by_cases restarting : step.restarts entity
  · rw [if_pos restarting, if_pos restarting]
    cases step with
    | heartbeats asked reset =>
        have same : asked = entity := by
          simp only [Step.restarts, Bool.and_eq_true, beq_iff_eq] at restarting
          exact restarting.2
        subst same
        rfl
    | _ => simp [Step.restarts] at restarting
  · rw [if_neg restarting, if_neg restarting]

theorem beats_on_of_restarts {entity : Entity} {outcome : Bool} {step : Step}
    (restarting : step.restarts entity) : step.beatsOn entity outcome = 0 := by
  cases step with
  | heartbeats asked reset => rfl
  | _ => simp [Step.restarts] at restarting

theorem beats_below_of_restarts {entity : Entity} {outcome : Bool} {world : World} {step : Step}
    (restarting : step.restarts entity) : world.beatsBelow entity outcome step = 0 := by
  cases step with
  | heartbeats asked reset => rfl
  | _ => simp [Step.restarts] at restarting

theorem beats_below_of_not_point {entity : Entity} (unowning : entity.point? = none)
    (outcome : Bool) (world : World) (step : Step) : world.beatsBelow entity outcome step = 0 := by
  have apart : ∀ owner : Option Point, owner.map Entity.point ≠ some entity := by
    intro owner found
    obtain ⟨station, _, same⟩ := Option.map_eq_some_iff.1 found
    subst same
    simp [Entity.point?] at unowning
  cases step with
  | beat beaten success times => cases beaten <;> simp [beatsBelow, apart]
  | _ => rfl

theorem attached_of_owner {shared : SharedGenerator} {steps : List Step} {device : Terminal}
    {station : Point}
    (owning : ((start shared).run steps).association.owner device = some station) :
    ∃ policy, Step.attach station device policy ∈ steps := by
  obtain ⟨position, ⟨step, found, joins⟩, _⟩ :=
    (holds_iff_since (fun world => world.association.owner device = some station)
      (owner_step_iff station device) (start shared) (by simp [start]) steps).1 owning
  cases step with
  | attach joined arriving policy =>
      obtain ⟨samePoint, sameTerminal⟩ := joins
      subst samePoint sameTerminal
      exact ⟨policy, List.mem_of_getElem? found⟩
  | _ => exact joins.elim

theorem sum_beats_below {world : World} {points : Finset Point}
    (covering : ∀ device station, world.association.owner device = some station →
      station ∈ points)
    (outcome : Bool) (step : Step) :
    ∑ station ∈ points, world.beatsBelow (.point station) outcome step =
      world.beatsBelowOwners outcome step := by
  cases step with
  | beat beaten success times =>
      cases beaten with
      | terminal device =>
          cases owning : world.association.owner device with
          | none => simp [beatsBelow, beatsBelowOwners, owning]
          | some owner =>
              have counted := covering device owner owning
              by_cases same : success = outcome <;>
                simp [beatsBelow, beatsBelowOwners, owning, same, counted]
      | _ => simp [beatsBelow, beatsBelowOwners]
  | _ => simp [beatsBelow, beatsBelowOwners]

theorem sum_tally_beats_below (shared : SharedGenerator) {points : Finset Point} {steps : List Step}
    (covering : ∀ station device policy, Step.attach station device policy ∈ steps →
      station ∈ points)
    (outcome : Bool) :
    ∑ station ∈ points, (start shared).tally (beatsBelow (.point station) outcome) steps =
      (start shared).tally (beatsBelowOwners outcome) steps := by
  induction steps using List.reverseRecOn with
  | nil => simp [tally]
  | append_singleton steps step induction =>
      have earlier : ∀ station device policy, Step.attach station device policy ∈ steps →
          station ∈ points :=
        fun station device policy member =>
          covering station device policy (List.mem_append_left _ member)
      have owners : ∀ device station,
          ((start shared).run steps).association.owner device = some station →
            station ∈ points := by
        intro device station owning
        obtain ⟨policy, attached⟩ := attached_of_owner owning
        exact earlier station device policy attached
      simp only [tally_snoc, Finset.sum_add_distrib]
      rw [induction earlier, sum_beats_below owners]

/-- A number read off the counts of a node that a reset brings to zero. What the resets hand over
and what is left make up all that was added to it. -/
theorem read_total (read : Heartbeats → Nat) (zero : read .zero = 0) {entity : Entity}
    {weight : World → Step → Nat}
    (law : ∀ (world : World) step, read ((world.step step).pulse.heartbeats entity) =
      if step.restarts entity then 0 else read (world.pulse.heartbeats entity) + weight world step)
    (idle : ∀ world step, Step.restarts entity step → weight world step = 0)
    (shared : SharedGenerator) (steps : List Step) :
    (start shared).tally (fun before step => read (before.handedOver entity step)) steps +
        read (((start shared).run steps).pulse.heartbeats entity) =
      (start shared).tally weight steps := by
  have handed : (fun (before : World) step => read (before.handedOver entity step)) =
      fun before step =>
        if step.restarts entity then read (before.pulse.heartbeats entity) else 0 := by
    funext before step
    rw [handed_over_eq]
    split
    · rfl
    · exact zero
  rw [handed]
  exact tally_taken_add_level (fun world => read (world.pulse.heartbeats entity)) law idle
    (start shared) zero steps

theorem heartbeats_beat_of_not_owner {world : World} {station : Point} {device : Terminal}
    (unowned : world.association.owner device ≠ some station) (success : Bool) (times : Nat) :
    (world.step (.beat (.terminal device) success times)).pulse.heartbeats (.point station) =
      world.pulse.heartbeats (.point station) := by
  apply Heartbeats.eq_of_counts
  · intro outcome
    simp [own_count_step, Step.restarts, Step.beatsOn]
  · intro outcome
    simp [children_count_step, Step.restarts, beatsBelow, unowned]

theorem children_eq_zero_of_not_point {entity : Entity} (unowning : entity.point? = none)
    (shared : SharedGenerator) (steps : List Step) :
    (((start shared).run steps).pulse.heartbeats entity).children = .zero := by
  refine run_invariant (fun world => (world.pulse.heartbeats entity).children = .zero) ?_
    (start shared) rfl steps
  intro world step nothing
  apply Counter.eq_of_counts
  intro outcome
  rw [children_count_step, beats_below_of_not_point unowning, nothing]
  split
  · exact (Heartbeats.children_count_zero outcome).symm
  · rfl

/-- The counts of every node after a run from an empty network, and what its resets handed over.
Only points have children counts, a beat is credited to nobody but the owner, whoever else lists the
terminal, and all points together are credited with every beat of a terminal that had an owner. -/
theorem heartbeat_accounting (shared : SharedGenerator) (steps : List Step) :
    let world := (start shared).run steps
    (∀ entity outcome,
      (world.pulse.heartbeats entity).own.count outcome =
        (start shared).tallySince (Step.restarts entity) (fun _ => Step.beatsOn entity outcome)
          steps ∧
      (world.pulse.heartbeats entity).children.count outcome =
        (start shared).tallySince (Step.restarts entity) (beatsBelow entity outcome) steps) ∧
    (∀ entity, entity.point? = none → (world.pulse.heartbeats entity).children = .zero) ∧
    (∀ station device success times, world.association.owner device ≠ some station →
      (world.step (.beat (.terminal device) success times)).pulse.heartbeats (.point station) =
        world.pulse.heartbeats (.point station)) ∧
    (∀ entity outcome,
      (start shared).tally (fun before step => (before.handedOver entity step).own.count outcome)
            steps +
          (world.pulse.heartbeats entity).own.count outcome =
        (start shared).tally (fun _ => Step.beatsOn entity outcome) steps ∧
      (start shared).tally
            (fun before step => (before.handedOver entity step).children.count outcome) steps +
          (world.pulse.heartbeats entity).children.count outcome =
        (start shared).tally (beatsBelow entity outcome) steps) ∧
    ∀ (points : Finset Point) (outcome : Bool),
      (∀ station device policy, Step.attach station device policy ∈ steps → station ∈ points) →
        ∑ station ∈ points,
            ((start shared).tally
                (fun before step =>
                  (before.handedOver (.point station) step).children.count outcome) steps +
              (world.pulse.heartbeats (.point station)).children.count outcome) =
          (start shared).tally (beatsBelowOwners outcome) steps := by
  intro world
  have childrenTotal : ∀ entity outcome,
      (start shared).tally
            (fun before step => (before.handedOver entity step).children.count outcome) steps +
          (world.pulse.heartbeats entity).children.count outcome =
        (start shared).tally (beatsBelow entity outcome) steps :=
    fun entity outcome => read_total (fun counts => counts.children.count outcome)
      (Heartbeats.children_count_zero outcome) (children_count_step entity outcome)
      (fun _ _ restarting => beats_below_of_restarts restarting) shared steps
  refine ⟨?_, ?_, ?_, ?_, ?_⟩
  · intro entity outcome
    constructor
    · exact level_run_eq_tally_since
        (fun world => (world.pulse.heartbeats entity).own.count outcome)
        (own_count_step entity outcome) (start shared) (Heartbeats.own_count_zero outcome) steps
    · exact level_run_eq_tally_since
        (fun world => (world.pulse.heartbeats entity).children.count outcome)
        (children_count_step entity outcome) (start shared) (Heartbeats.children_count_zero outcome)
        steps
  · intro entity unowning
    exact children_eq_zero_of_not_point unowning shared steps
  · intro station device success times unowned
    exact heartbeats_beat_of_not_owner unowned success times
  · intro entity outcome
    constructor
    · exact read_total (fun counts => counts.own.count outcome)
        (Heartbeats.own_count_zero outcome) (own_count_step entity outcome)
        (fun _ _ restarting => beats_on_of_restarts restarting) shared steps
    · exact childrenTotal entity outcome
  · intro points outcome covering
    rw [← sum_tally_beats_below shared covering outcome]
    apply Finset.sum_congr rfl
    intro station _
    exact childrenTotal (.point station) outcome

end World

end AccessNetwork
