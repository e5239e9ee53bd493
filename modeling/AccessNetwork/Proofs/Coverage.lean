import AccessNetwork.Proofs.Inspection
import Mathlib.Data.Set.Card

/-!
What an inspection reports. It counts each point and each terminal that it gathers once, and it has
one issue for each stale pair of a point that it examines. Only which points and terminals are given
matters: their order, repetitions and plain nodes play no part, and an inspection of two lists
together finds what the two inspections find.
-/

namespace AccessNetwork

open AccessNetwork.Identity

set_option autoImplicit false

theorem nodup_erase_dups {Item : Type} [DecidableEq Item] (items : List Item) :
    items.eraseDups.Nodup := by
  -- By the last item: the first of equal items stays, so a later one is what goes.
  induction items using List.reverseRecOn with
  | nil => exact List.nodup_nil
  | append_singleton earlier item induction =>
      rw [List.eraseDups_append]
      by_cases seen : item ∈ earlier
      · have nothing : [item].removeAll earlier = [] := by simp [List.removeAll, seen]
        rw [nothing]
        simpa using induction
      · have fresh : [item].removeAll earlier = [item] := by simp [List.removeAll, seen]
        have single : [item].eraseDups = [item] := rfl
        rw [fresh, single, List.nodup_append]
        refine ⟨induction, List.nodup_singleton item, ?_⟩
        intro other member last isLast same
        rw [List.mem_singleton] at isLast
        exact seen (isLast ▸ same ▸ List.mem_eraseDups.1 member)

theorem length_eq_ncard {Item : Type} [DecidableEq Item] {items : List Item}
    {Counted : Item → Prop} (distinct : items.Nodup) (counts : ∀ item, item ∈ items ↔ Counted item) :
    items.length = {item | Counted item}.ncard := by
  rw [← List.toFinset_card_of_nodup distinct, ← Set.ncard_coe_finset]
  congr 1
  ext item
  simp [counts]

def StaleListing.pair (issue : StaleListing) : Point × Terminal := (issue.station, issue.device)

/-- The same points, terminals and issues, in whatever order. -/
structure Report.SameFindings (left right : Report) : Prop where
  points : left.points.Perm right.points
  terminals : left.terminals.Perm right.terminals
  issues : left.issues.Perm right.issues

def Entity.isPlain : Entity → Bool
  | .plain _ => true
  | _ => false

theorem Entity.filter_map_without_plain {Item : Type} {read : Entity → Option Item}
    (blind : ∀ handle, read (.plain handle) = none) (entities : List Entity) :
    (entities.filter fun entity => !entity.isPlain).filterMap read = entities.filterMap read := by
  rw [List.filterMap_filter]
  congr 1
  funext entity
  cases entity with
  | plain handle => exact (blind handle).symm
  | _ => rfl

namespace Association

/-- The terminals given, and those that the given points list. -/
def Gathers (association : Association) (entities : List Entity) (device : Terminal) : Prop :=
  .terminal device ∈ entities ∨
    ∃ given, .point given ∈ entities ∧ device ∈ association.members given

theorem examines_iff (association : Association) (entities : List Entity) (station : Point) :
    association.Examines entities station ↔
      .point station ∈ entities ∨
        ∃ device, association.owner device = some station ∧ association.Gathers entities device :=
  Iff.rfl

theorem gathers_append (association : Association) (left right : List Entity)
    (device : Terminal) :
    association.Gathers (left ++ right) device ↔
      association.Gathers left device ∨ association.Gathers right device := by
  simp only [Gathers, List.mem_append, or_and_right, exists_or]
  exact or_or_or_comm

theorem examines_append (association : Association) (left right : List Entity)
    (station : Point) :
    association.Examines (left ++ right) station ↔
      association.Examines left station ∨ association.Examines right station := by
  simp only [examines_iff, gathers_append, List.mem_append, and_or_left, exists_or]
  exact or_or_or_comm

section Given

variable (association : Association) {left right : List Entity}
  (points : ∀ station, .point station ∈ left ↔ .point station ∈ right)
  (terminals : ∀ device, .terminal device ∈ left ↔ .terminal device ∈ right)

include points terminals

theorem gathers_of_same_given (device : Terminal) :
    association.Gathers left device ↔ association.Gathers right device := by
  simp only [Gathers, points, terminals]

theorem examines_of_same_given (station : Point) :
    association.Examines left station ↔ association.Examines right station := by
  simp only [examines_iff, association.gathers_of_same_given points terminals, points]

end Given

theorem mem_points_iff (association : Association) (entities : List Entity) (station : Point) :
    station ∈ (association.validate entities).points ↔ association.Examines entities station :=
  association.mem_inspected_points_iff entities station

theorem mem_terminals_iff (association : Association) (entities : List Entity)
    (device : Terminal) :
    device ∈ (association.validate entities).terminals ↔ association.Gathers entities device :=
  association.mem_inspected_terminals_iff entities device

theorem points_nodup (association : Association) (entities : List Entity) :
    (association.validate entities).points.Nodup :=
  nodup_erase_dups _

theorem terminals_nodup (association : Association) (entities : List Entity) :
    (association.validate entities).terminals.Nodup :=
  nodup_erase_dups _

theorem point_count (association : Association) (entities : List Entity) :
    (association.validate entities).points.length =
      {station | association.Examines entities station}.ncard :=
  length_eq_ncard (association.points_nodup entities) (association.mem_points_iff entities)

theorem terminal_count (association : Association) (entities : List Entity) :
    (association.validate entities).terminals.length =
      {device | association.Gathers entities device}.ncard :=
  length_eq_ncard (association.terminals_nodup entities) (association.mem_terminals_iff entities)

theorem mem_stale_listings_iff (association : Association) (station : Point)
    (issue : StaleListing) :
    issue ∈ association.staleListings station ↔
      issue.station = station ∧ association.Stale station issue.device ∧
        issue.owner = association.owner issue.device := by
  rcases issue with ⟨listing, device, owner⟩
  simp only [staleListings, Stale, List.mem_map, List.mem_filter, bne_iff_ne,
    StaleListing.mk.injEq]
  constructor
  · intro reported
    obtain ⟨other, stale, same, rfl, asked⟩ := reported
    exact ⟨same.symm, stale, asked.symm⟩
  · intro reported
    obtain ⟨same, stale, asked⟩ := reported
    exact ⟨device, stale, same.symm, rfl, asked.symm⟩

theorem mem_issues_iff (association : Association) (entities : List Entity)
    (issue : StaleListing) :
    issue ∈ (association.validate entities).issues ↔
      association.Examines entities issue.station ∧
        association.Stale issue.station issue.device ∧
        issue.owner = association.owner issue.device := by
  simp only [validate, List.mem_flatMap, mem_inspected_points_iff, mem_stale_listings_iff]
  constructor
  · intro reported
    obtain ⟨station, examined, same, stale⟩ := reported
    subst same
    exact ⟨examined, stale⟩
  · intro reported
    exact ⟨issue.station, reported.1, rfl, reported.2⟩

theorem mem_pairs_iff (association : Association) (entities : List Entity) (station : Point)
    (device : Terminal) :
    (station, device) ∈ (association.validate entities).issues.map StaleListing.pair ↔
      association.Examines entities station ∧ association.Stale station device := by
  simp only [List.mem_map, mem_issues_iff, StaleListing.pair, Prod.mk.injEq]
  constructor
  · intro reported
    obtain ⟨issue, ⟨examined, stale, _⟩, same, alike⟩ := reported
    exact same ▸ alike ▸ ⟨examined, stale⟩
  · intro found
    exact ⟨⟨station, device, association.owner device⟩, ⟨found.1, found.2, rfl⟩, rfl, rfl⟩

/-- The points are examined once each and list each terminal once, so no issue comes twice. -/
theorem issues_nodup {association : Association} (kept : association.WellKept)
    (entities : List Entity) : (association.validate entities).issues.Nodup := by
  unfold validate
  rw [List.nodup_flatMap]
  constructor
  · intro station _
    refine ((kept.distinct station).filter _).map ?_
    intro device other same
    exact (StaleListing.mk.inj same).2.1
  · refine (association.points_nodup entities).imp ?_
    intro station other apart issue first second
    rw [mem_stale_listings_iff] at first second
    exact apart (first.1.symm.trans second.1)

theorem pairs_nodup {association : Association} (kept : association.WellKept)
    (entities : List Entity) :
    ((association.validate entities).issues.map StaleListing.pair).Nodup := by
  -- An issue is its pair: the owner that it carries is the one its terminal has.
  refine List.Nodup.map_on ?_ (issues_nodup kept entities)
  intro issue first other second same
  have owner := ((association.mem_issues_iff entities issue).1 first).2.2
  have another := ((association.mem_issues_iff entities other).1 second).2.2
  rcases issue with ⟨station, device, found⟩
  rcases other with ⟨listing, arriving, asked⟩
  simp only [StaleListing.pair, Prod.mk.injEq] at same
  obtain ⟨rfl, rfl⟩ := same
  rw [StaleListing.mk.injEq]
  exact ⟨rfl, rfl, owner.trans another.symm⟩

theorem same_findings_of_same_given {association : Association} (kept : association.WellKept)
    {left right : List Entity}
    (points : ∀ station, .point station ∈ left ↔ .point station ∈ right)
    (terminals : ∀ device, .terminal device ∈ left ↔ .terminal device ∈ right) :
    (association.validate left).SameFindings (association.validate right) := by
  have examined := association.examines_of_same_given points terminals
  have gathered := association.gathers_of_same_given points terminals
  constructor
  · rw [List.perm_ext_iff_of_nodup (points_nodup _ _) (points_nodup _ _)]
    intro station
    rw [mem_points_iff, mem_points_iff, examined]
  · rw [List.perm_ext_iff_of_nodup (terminals_nodup _ _) (terminals_nodup _ _)]
    intro device
    rw [mem_terminals_iff, mem_terminals_iff, gathered]
  · rw [List.perm_ext_iff_of_nodup (issues_nodup kept _) (issues_nodup kept _)]
    intro issue
    rw [mem_issues_iff, mem_issues_iff, examined]

theorem issues_append (association : Association) (left right : List Entity)
    (issue : StaleListing) :
    issue ∈ (association.validate (left ++ right)).issues ↔
      issue ∈ (association.validate left).issues ∨ issue ∈ (association.validate right).issues := by
  simp only [mem_issues_iff, examines_append, or_and_right]

theorem validate_without_plain (association : Association) (entities : List Entity) :
    association.validate (entities.filter fun entity => !entity.isPlain) =
      association.validate entities := by
  have points : givenPoints (entities.filter fun entity => !entity.isPlain) =
      givenPoints entities := by
    rw [givenPoints, Entity.filter_map_without_plain (fun _ => rfl), givenPoints]
  have terminals : givenTerminals (entities.filter fun entity => !entity.isPlain) =
      givenTerminals entities :=
    Entity.filter_map_without_plain (fun _ => rfl) entities
  simp only [validate, inspectedPoints, inspectedTerminals, points, terminals]

end Association

namespace World

/-- An inspection of a reachable network has exactly one issue for each stale pair of a point that
it examines and no other issue, with a message that names the owner the terminal has now or says
that it has none. It counts the points that it examines and the terminals that it gathers, and it
finds the network consistent if there is no issue. The counts and the issues depend only on which
points and terminals are given, in whatever order and however often; without the plain nodes the
report is the very same; and two lists together have the issues of both. A label shows the kind of
the node and its identifier. -/
theorem report_lists_stale_pairs_once (shared : SharedGenerator) (steps : List Step)
    (entities : List Entity) :
    let world := (start shared).run steps
    let report := world.association.validate entities
    world.answer (.validate entities) =
      .report report (report.issues.map world.issueMessage) ∧
    (∀ station, world.label (.point station) =
      "AP(" ++ (world.identifier (.point station)).spelling ++ ")") ∧
    (∀ device, world.label (.terminal device) =
      "RT(" ++ (world.identifier (.terminal device)).spelling ++ ")") ∧
    (∀ issue ∈ report.issues,
      let listing := world.label (.point issue.station) ++ " lists " ++
        world.label (.terminal issue.device)
      (∀ owner, world.association.owner issue.device = some owner →
        world.issueMessage issue =
          listing ++ (", which is owned by " ++ world.label (.point owner))) ∧
      (world.association.owner issue.device = none →
        world.issueMessage issue = listing ++ ", which has no owner")) ∧
    (report.issues.map StaleListing.pair).Nodup ∧
    (∀ station device, (station, device) ∈ report.issues.map StaleListing.pair ↔
      world.association.Examines entities station ∧
        device ∈ world.association.members station ∧
        world.association.owner device ≠ some station) ∧
    report.points.length = {station | world.association.Examines entities station}.ncard ∧
    report.terminals.length = {device | world.association.Gathers entities device}.ncard ∧
    (report.consistent = true ↔ report.issues = []) ∧
    world.answer (.consistent entities) = .truth report.consistent ∧
    (∀ others, (∀ station, .point station ∈ others ↔ .point station ∈ entities) →
      (∀ device, .terminal device ∈ others ↔ .terminal device ∈ entities) →
        (world.association.validate others).SameFindings report) ∧
    world.association.validate (entities.filter fun entity => !entity.isPlain) = report ∧
    ∀ others issue, issue ∈ (world.association.validate (entities ++ others)).issues ↔
      issue ∈ report.issues ∨ issue ∈ (world.association.validate others).issues := by
  intro world report
  have kept : world.association.WellKept := well_kept_run shared steps
  refine ⟨rfl, world.label_point, world.label_terminal, ?_, Association.pairs_nodup kept entities,
    world.association.mem_pairs_iff entities, world.association.point_count entities,
    world.association.terminal_count entities, List.isEmpty_iff, rfl, ?_,
    world.association.validate_without_plain entities, world.association.issues_append entities⟩
  · intro issue reported listing
    have current := ((world.association.mem_issues_iff entities issue).1 reported).2.2
    constructor
    · intro owner owning
      simp only [issueMessage, current, owning]
      rfl
    · intro unowned
      simp only [issueMessage, current, unowned]
      rfl
  · intro others points terminals
    exact Association.same_findings_of_same_given kept points terminals

end World

end AccessNetwork
