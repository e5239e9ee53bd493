import AccessNetwork.Proofs.Membership

/-!
The association as a function of the calls made so far. The owner of a terminal is decided by the
last call that names the terminal, whatever point that call names. A listing is decided pair by
pair: a terminal stays listed from its attachment until it is released at that point, or detached
from it while that point owns it. The listing is in the order in which these stays began.
-/

namespace AccessNetwork

open AccessNetwork.Identity

set_option autoImplicit false

def Step.Joins (station : Point) (device : Terminal) : Step → Prop
  | .attach joined arriving _ => station = joined ∧ device = arriving
  | _ => False

namespace World

/-- A terminal leaves a listing by a release at that point, or by an attachment elsewhere that runs
under `detach` while that point owns the terminal. -/
def Strikes (world : World) (station : Point) (device : Terminal) : Step → Prop
  | .release left leaving => station = left ∧ device = leaving
  | .attach joined arriving policy =>
      device = arriving ∧ station ≠ joined ∧ world.effectivePolicy policy = .detach ∧
        world.association.owner device = some station
  | _ => False

/-- A call asks for its policy by any value. What is absent or null leaves it to the configuration,
and of all others only one word asks for `detach`. -/
theorem effective_policy_requested_iff (world : World) (requested : Value) :
    world.effectivePolicy (Policy.requested? requested) = .detach ↔
      requested = .text "detach" ∨
        ((requested = .absent ∨ requested = .null) ∧ world.config.policy = .detach) := by
  cases requested with
  | text given =>
      by_cases word : given = "detach" <;>
        simp [effectivePolicy, Policy.requested?, Policy.word, word]
  | _ => simp [effectivePolicy, Policy.requested?]

theorem owner_step_iff (station : Point) (device : Terminal) (world : World) (step : Step) :
    (world.step step).association.owner device = some station ↔
      step.Joins station device ∨
        (world.association.owner device = some station ∧
          ¬(step.Names device ∨ step = .reclaim station)) := by
  rw [owner_step]
  cases step with
  | attach joined arriving policy =>
      by_cases same : device = arriving <;>
        simp [associationAfter, Association.owner_attach, Step.Joins, Step.Names, same, eq_comm]
  | release left leaving =>
      by_cases same : device = leaving <;>
        simp [associationAfter, Association.owner_release, Step.Joins, Step.Names, same]
  | reclaim reclaimed =>
      rw [associationAfter, Association.owner_reclaim]
      by_cases owning : world.association.owner device = some reclaimed
      · simp [Step.Joins, Step.Names, owning, eq_comm]
      · have apart : world.association.owner device = some station → ¬reclaimed = station := by
          intro found same
          exact owning (same ▸ found)
        simpa [Step.Joins, Step.Names, owning] using apart
  | _ => simp [associationAfter, Step.Joins, Step.Names]

theorem mem_members_step_iff (station : Point) (device : Terminal) (world : World) (step : Step) :
    device ∈ (world.step step).association.members station ↔
      step.Joins station device ∨
        (device ∈ world.association.members station ∧ ¬world.Strikes station device step) := by
  rw [members_step]
  cases step with
  | attach joined arriving policy =>
      rw [associationAfter, Association.mem_members_attach_iff]
      by_cases same : device = arriving
      · subst same
        rfl
      · simp [Step.Joins, Strikes, same]
  | release left leaving =>
      rw [associationAfter, Association.mem_members_release_iff]
      simp [Step.Joins, Strikes]
  | _ => simp [associationAfter, Step.Joins, Strikes]

theorem members_step_cases (station : Point) (world : World) (step : Step) :
    ((world.step step).association.members station).Sublist (world.association.members station) ∨
      ∃ device, step.Joins station device ∧ device ∉ world.association.members station ∧
        (world.step step).association.members station =
          world.association.members station ++ [device] := by
  rw [members_step]
  cases step with
  | attach joined arriving policy =>
      rw [associationAfter, Association.members_attach]
      split_ifs with joining listed struck
      · exact .inl (joining ▸ List.Sublist.refl _)
      · exact .inr ⟨arriving, ⟨joining, rfl⟩, joining ▸ listed, joining ▸ rfl⟩
      · exact .inl List.filter_sublist
      · exact .inl (List.Sublist.refl _)
  | release left leaving =>
      rw [associationAfter, Association.members_release]
      split_ifs with leaving
      · exact .inl (leaving ▸ List.filter_sublist)
      · exact .inl (List.Sublist.refl _)
  | _ => exact .inl (List.Sublist.refl _)

/-- The step at this position put the terminal on the listing, and no later one has left it off. -/
def EnteredAt (world : World) (station : Point) (device : Terminal) (steps : List Step)
    (position : Nat) : Prop :=
  world.SinceAt
    (fun before step =>
      step.Joins station device ∧ device ∉ before.association.members station)
    (fun before step => device ∉ (before.step step).association.members station) steps position

def EntersBefore (world : World) (station : Point) (steps : List Step)
    (earlier later : Terminal) : Prop :=
  ∀ first second, world.EnteredAt station earlier steps first →
    world.EnteredAt station later steps second → first < second

section Entrance

variable {world : World} {station : Point}

theorem listed_iff_entered (vacant : world.association.members station = []) (device : Terminal)
    (steps : List Step) :
    device ∈ (world.run steps).association.members station ↔
      ∃ position, world.EnteredAt station device steps position := by
  refine holds_iff_since (fun world => device ∈ world.association.members station) ?_ world
    (by simp [vacant]) steps
  intro before step
  constructor
  · intro listed
    by_cases already : device ∈ before.association.members station
    · exact .inr ⟨already, not_not_intro listed⟩
    · rcases (mem_members_step_iff station device before step).1 listed with joins | ⟨found, _⟩
      · exact .inl ⟨joins, already⟩
      · exact (already found).elim
  · intro entering
    rcases entering with ⟨joins, _⟩ | ⟨_, listed⟩
    · exact (mem_members_step_iff station device before step).2 (.inl joins)
    · exact not_not.1 listed

theorem listed_of_entered (vacant : world.association.members station = []) {device : Terminal}
    {steps : List Step} {position : Nat} (entered : world.EnteredAt station device steps position) :
    device ∈ (world.run steps).association.members station :=
  (listed_iff_entered vacant device steps).2 ⟨position, entered⟩

theorem entered_at_snoc {device : Terminal} {steps : List Step} {step : Step} {position : Nat}
    (entered : world.EnteredAt station device (steps ++ [step]) position) :
    (position = steps.length ∧ device ∉ (world.run steps).association.members station) ∨
      world.EnteredAt station device steps position := by
  rcases (world.since_at_snoc _ _ steps step position).1 entered with ⟨last, happened⟩ | earlier
  · exact .inl ⟨last, happened.2⟩
  · exact .inr earlier.1

/-- Of two entrances one would be before the other, and at the later one the terminal would be
listed already. -/
theorem entered_at_unique (vacant : world.association.members station = []) {device : Terminal}
    {steps : List Step} {first second : Nat} (one : world.EnteredAt station device steps first)
    (other : world.EnteredAt station device steps second) : first = second := by
  induction steps using List.reverseRecOn with
  | nil => exact (not_since_at_nil world _ _ first one).elim
  | append_singleton steps step induction =>
      rcases entered_at_snoc one with ⟨firstLast, absent⟩ | firstEarlier
      · rcases entered_at_snoc other with ⟨secondLast, _⟩ | secondEarlier
        · rw [firstLast, secondLast]
        · exact (absent (listed_of_entered vacant secondEarlier)).elim
      · rcases entered_at_snoc other with ⟨_, absent⟩ | secondEarlier
        · exact (absent (listed_of_entered vacant firstEarlier)).elim
        · exact induction firstEarlier secondEarlier

theorem members_in_order_of_entrance (vacant : world.association.members station = [])
    (steps : List Step) :
    ((world.run steps).association.members station).Pairwise
      (world.EntersBefore station steps) := by
  induction steps using List.reverseRecOn with
  | nil =>
      have none : (world.run []).association.members station = [] := vacant
      rw [none]
      exact List.Pairwise.nil
  | append_singleton steps step induction =>
      have listedBefore : ∀ {device position},
          device ∈ (world.run steps).association.members station →
            world.EnteredAt station device (steps ++ [step]) position →
              world.EnteredAt station device steps position := by
        intro device position listed entered
        rcases entered_at_snoc entered with ⟨_, absent⟩ | earlier
        · exact (absent listed).elim
        · exact earlier
      have still : ((world.run steps).association.members station).Pairwise
          (world.EntersBefore station (steps ++ [step])) := by
        apply induction.imp_of_mem
        intro earlier later before after order first second one other
        exact order first second (listedBefore before one) (listedBefore after other)
      rw [run_snoc]
      rcases members_step_cases station (world.run steps) step with
        shorter | ⟨arriving, joins, absent, longer⟩
      · exact still.sublist shorter
      · rw [longer, List.pairwise_append]
        refine ⟨still, List.pairwise_singleton _ arriving, ?_⟩
        intro earlier listed later single first second one other
        rw [List.mem_singleton] at single
        subst later
        have before := since_at_lt_length (listedBefore listed one)
        rcases entered_at_snoc other with ⟨last, _⟩ | entered
        · exact last ▸ before
        · exact (absent (listed_of_entered vacant entered)).elim

end Entrance

/-- After a run from an empty network: the owner is the point of the last call that names the
terminal, unless that call released it or that point was reclaimed since; a terminal is listed
exactly if nothing has struck it since some attachment to that point; and a listing is in the order
of the attachments that its terminals entered by. -/
theorem association_history (shared : SharedGenerator) (steps : List Step) (station : Point)
    (device : Terminal) :
    (((start shared).run steps).association.owner device = some station ↔
      (start shared).Since (fun _ step => step.Joins station device)
        (fun _ step => step.Names device ∨ step = .reclaim station) steps) ∧
    (device ∈ ((start shared).run steps).association.members station ↔
      (start shared).Since (fun _ step => step.Joins station device)
        (fun before step => before.Strikes station device step) steps) ∧
    (((start shared).run steps).association.members station).Nodup ∧
    (∀ listed ∈ ((start shared).run steps).association.members station,
      ∃! position, (start shared).EnteredAt station listed steps position) ∧
    (((start shared).run steps).association.members station).Pairwise
      ((start shared).EntersBefore station steps) ∧
    ∀ (world : World) (requested : Value),
      world.effectivePolicy (Policy.requested? requested) = .detach ↔
        requested = .text "detach" ∨
          ((requested = .absent ∨ requested = .null) ∧ world.config.policy = .detach) := by
  have vacant : (start shared).association.members station = [] := rfl
  refine ⟨?_, ?_, (well_kept_run shared steps).distinct station, ?_, ?_,
    effective_policy_requested_iff⟩
  · exact holds_iff_since (fun world => world.association.owner device = some station)
      (owner_step_iff station device) (start shared) (by simp [start]) steps
  · exact holds_iff_since (fun world => device ∈ world.association.members station)
      (mem_members_step_iff station device) (start shared) (by simp [vacant]) steps
  · intro listed member
    obtain ⟨position, entered⟩ := (listed_iff_entered vacant listed steps).1 member
    exact ⟨position, entered, fun other again => entered_at_unique vacant again entered⟩
  · exact members_in_order_of_entrance vacant steps

end World

end AccessNetwork
