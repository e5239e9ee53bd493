import AccessNetwork.Proofs.Membership

/-!
What an inspection decides. Since an owner always lists its terminals, a listing without an answer
is the only way in which the two sides can differ, and it is the only thing that an inspection
looks for. An inspection therefore finds the points that it examines consistent exactly if, for each
of them, listing and owning are the same; and it decides the whole network if it is given every
point that lists anything.
-/

namespace AccessNetwork

open AccessNetwork.Identity

set_option autoImplicit false

theorem Entity.point_eq_some_iff (entity : Entity) (station : Point) :
    entity.point? = some station ↔ entity = .point station := by
  cases entity <;> simp [Entity.point?]

theorem Entity.terminal_eq_some_iff (entity : Entity) (device : Terminal) :
    entity.terminal? = some device ↔ entity = .terminal device := by
  cases entity <;> simp [Entity.terminal?]

namespace Association

/-- Listing and owning are the same. -/
def TwoSided (association : Association) : Prop :=
  ∀ station device,
    device ∈ association.members station ↔ association.owner device = some station

/-- The points given, and the owners of the terminals given and of those that these points list. -/
def Examines (association : Association) (entities : List Entity) (station : Point) : Prop :=
  .point station ∈ entities ∨
    ∃ device, association.owner device = some station ∧
      (.terminal device ∈ entities ∨
        ∃ given, .point given ∈ entities ∧ device ∈ association.members given)

theorem mem_given_points_iff (entities : List Entity) (station : Point) :
    station ∈ givenPoints entities ↔ .point station ∈ entities := by
  rw [givenPoints, List.mem_eraseDups, List.mem_filterMap]
  simp only [Entity.point_eq_some_iff, exists_eq_right]

theorem mem_given_terminals_iff (entities : List Entity) (device : Terminal) :
    device ∈ givenTerminals entities ↔ .terminal device ∈ entities := by
  rw [givenTerminals, List.mem_filterMap]
  simp only [Entity.terminal_eq_some_iff, exists_eq_right]

theorem mem_inspected_terminals_iff (association : Association) (entities : List Entity)
    (device : Terminal) :
    device ∈ association.inspectedTerminals entities ↔
      .terminal device ∈ entities ∨
        ∃ given, .point given ∈ entities ∧ device ∈ association.members given := by
  rw [inspectedTerminals, List.mem_eraseDups, List.mem_append, List.mem_flatMap,
    mem_given_terminals_iff]
  simp only [mem_given_points_iff]

theorem mem_inspected_points_iff (association : Association) (entities : List Entity)
    (station : Point) :
    station ∈ association.inspectedPoints entities ↔ association.Examines entities station := by
  rw [inspectedPoints, List.mem_eraseDups, List.mem_append, List.mem_filterMap,
    mem_given_points_iff, Examines]
  simp only [mem_inspected_terminals_iff, and_comm]

theorem stale_listings_eq_nil_iff (association : Association) (station : Point) :
    association.staleListings station = [] ↔
      ∀ device ∈ association.members station, association.owner device = some station := by
  simp [staleListings]

theorem consistent_iff (association : Association) (entities : List Entity) :
    (association.validate entities).consistent = true ↔
      ∀ station, association.Examines entities station →
        ∀ device ∈ association.members station, association.owner device = some station := by
  rw [Report.consistent, List.isEmpty_iff, validate, List.flatMap_eq_nil_iff]
  simp only [mem_inspected_points_iff, stale_listings_eq_nil_iff]

theorem joined_iff {association : Association} (kept : association.WellKept) (station : Point)
    (device : Terminal) :
    association.joined station device = true ↔ association.owner device = some station := by
  rw [joined, Bool.and_eq_true, List.contains_iff_mem, beq_iff_eq]
  constructor
  · exact And.right
  · intro owning
    exact ⟨kept.listed station device owning, owning⟩

/-- A point that is passed over lists nothing, and so owns nothing. -/
theorem two_sided_of_examined {association : Association} (kept : association.WellKept)
    (entities : List Entity)
    (covered : ∀ station, association.members station ≠ [] → .point station ∈ entities)
    (examined : ∀ station, association.Examines entities station →
      ∀ device ∈ association.members station, association.owner device = some station) :
    association.TwoSided := by
  intro station device
  constructor
  · intro member
    have given := covered station (List.ne_nil_of_mem member)
    exact examined station (.inl given) device member
  · exact kept.listed station device

end Association

namespace World

/-- From an empty network, whatever happens: an owner lists its terminals, so a terminal is joined
to its owner and to nobody else, and an inspection decides whether listing and owning agree at the
points that it examines. Given every point that lists a terminal, it decides it for all. -/
theorem inspection_decides_agreement (shared : SharedGenerator) (steps : List Step) :
    let world := (start shared).run steps
    (∀ station device, world.association.owner device = some station →
      device ∈ world.association.members station) ∧
    (∀ station device, world.answer (.associated station device) = .truth true ↔
      world.association.owner device = some station) ∧
    (∀ device station other, world.answer (.associated station device) = .truth true →
      world.answer (.associated other device) = .truth true → station = other) ∧
    (∀ entities, world.answer (.consistent entities) = .truth true ↔
      ∀ station, world.association.Examines entities station →
        ∀ device, device ∈ world.association.members station ↔
          world.association.owner device = some station) ∧
    ∀ entities,
      (∀ station, world.association.members station ≠ [] → .point station ∈ entities) →
        (world.answer (.consistent entities) = .truth true ↔ world.association.TwoSided) := by
  intro world
  have kept : world.association.WellKept := well_kept_run shared steps
  have joining : ∀ station device, world.answer (.associated station device) = .truth true ↔
      world.association.owner device = some station := by
    intro station device
    rw [answer, Answer.truth.injEq]
    exact Association.joined_iff kept station device
  have deciding : ∀ entities, world.answer (.consistent entities) = .truth true ↔
      ∀ station, world.association.Examines entities station →
        ∀ device ∈ world.association.members station,
          world.association.owner device = some station := by
    intro entities
    rw [answer, Answer.truth.injEq]
    exact world.association.consistent_iff entities
  refine ⟨kept.listed, joining, ?_, ?_, ?_⟩
  · intro device station other one another
    have same := ((joining station device).1 one).symm.trans ((joining other device).1 another)
    exact Option.some.inj same
  · intro entities
    rw [deciding entities]
    constructor
    · intro examined station examines device
      exact ⟨examined station examines device, kept.listed station device⟩
    · intro agreeing station examines device member
      exact (agreeing station examines device).1 member
  · intro entities covered
    rw [deciding entities]
    constructor
    · exact Association.two_sided_of_examined kept entities covered
    · intro agreeing station _ device member
      exact (agreeing station device).1 member

end World

end AccessNetwork
