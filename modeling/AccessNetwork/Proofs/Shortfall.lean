import AccessNetwork.Proofs.Coverage
import Mathlib.Data.List.Perm.Subperm

/-!
Where the terminal count of a report falls short. The listing of a point that was found only as an
owner is examined, but the terminals on it are not gathered. So every point that an issue names is
counted, while a terminal that an issue names may be missing from the count.
-/

namespace AccessNetwork

open AccessNetwork.Identity

set_option autoImplicit false

section Lengths

variable {Item : Type} [DecidableEq Item]

theorem erase_dups_length_le {items covering : List Item}
    (covered : ∀ item ∈ items, item ∈ covering) : items.eraseDups.length ≤ covering.length := by
  apply List.Subperm.length_le
  apply List.subperm_of_subset (nodup_erase_dups items)
  intro item member
  exact covered item (List.mem_eraseDups.1 member)

theorem length_eq_erase_dups_length_iff {counted items : List Item} (distinct : counted.Nodup)
    (within : ∀ item ∈ counted, item ∈ items) :
    counted.length = items.eraseDups.length ↔ ∀ item ∈ items, item ∈ counted := by
  constructor
  · intro same item member
    have sub : counted.Subperm items.eraseDups := by
      apply List.subperm_of_subset distinct
      intro other counting
      exact List.mem_eraseDups.2 (within other counting)
    have all := sub.perm_of_length_le (Nat.le_of_eq same.symm)
    exact all.mem_iff.2 (List.mem_eraseDups.2 member)
  · intro covered
    have alike : ∀ item, item ∈ counted ↔ item ∈ items.eraseDups := by
      intro item
      rw [List.mem_eraseDups]
      exact ⟨within item, covered item⟩
    exact ((List.perm_ext_iff_of_nodup distinct (nodup_erase_dups items)).2 alike).length_eq

end Lengths

namespace Association

theorem mem_asked_terminals_iff (association : Association) (entities : List Entity)
    (device : Terminal) :
    device ∈ association.askedTerminals entities ↔
      association.Gathers entities device ∨
        ∃ station, association.Examines entities station ∧
          device ∈ association.members station := by
  rw [askedTerminals, List.mem_append, List.mem_flatMap, mem_inspected_terminals_iff]
  simp only [mem_inspected_points_iff, Gathers]

/-- What a given point lists is gathered, so only the points found as owners can be at fault. -/
theorem gathers_of_given {association : Association} {entities : List Entity} {station : Point}
    {device : Terminal} (given : .point station ∈ entities)
    (listed : device ∈ association.members station) : association.Gathers entities device :=
  .inr ⟨station, given, listed⟩

theorem issues_counted_iff (association : Association) (entities : List Entity) :
    (∀ issue ∈ (association.validate entities).issues,
        issue.device ∈ (association.validate entities).terminals) ↔
      ∀ station, association.Examines entities station → .point station ∉ entities →
        ∀ device, association.Stale station device → association.Gathers entities device := by
  constructor
  · intro counted station examined _ device stale
    have reported : ⟨station, device, association.owner device⟩ ∈
        (association.validate entities).issues :=
      (association.mem_issues_iff entities _).2 ⟨examined, stale, rfl⟩
    exact (association.mem_terminals_iff entities device).1 (counted _ reported)
  · intro covered issue reported
    obtain ⟨examined, stale, _⟩ := (association.mem_issues_iff entities issue).1 reported
    rw [mem_terminals_iff]
    by_cases given : .point issue.station ∈ entities
    · exact gathers_of_given given stale.1
    · exact covered issue.station examined given issue.device stale

theorem terminals_counted_iff (association : Association) (entities : List Entity) :
    (association.validate entities).terminals.length =
        (association.askedTerminals entities).eraseDups.length ↔
      ∀ station, association.Examines entities station → .point station ∉ entities →
        ∀ device ∈ association.members station, association.Gathers entities device := by
  have within : ∀ device ∈ (association.validate entities).terminals,
      device ∈ association.askedTerminals entities := by
    intro device counted
    rw [mem_asked_terminals_iff, ← mem_terminals_iff]
    exact .inl counted
  rw [length_eq_erase_dups_length_iff (association.terminals_nodup entities) within]
  simp only [mem_asked_terminals_iff, mem_terminals_iff]
  constructor
  · intro covered station examined _ device listed
    exact covered device (.inr ⟨station, examined, listed⟩)
  · intro covered device asked
    rcases asked with gathered | ⟨station, examined, listed⟩
    · exact gathered
    · by_cases given : .point station ∈ entities
      · exact gathers_of_given given listed
      · exact covered station examined given device listed

end Association

namespace World

/-- When the counts of a report cover what is inspected, in any reachable network. The points counted
are those that are examined, and every point that an issue names is one of them. Every terminal that
an issue names is counted exactly if the points that were found only as owners have no stale listing
but of gathered terminals; then the issues name no more terminals than are counted. The terminals
counted are all whose owners were asked for exactly if those points list gathered terminals only. -/
theorem counts_cover_inspected_iff (shared : SharedGenerator) (steps : List Step)
    (entities : List Entity) :
    let association := ((start shared).run steps).association
    let report := association.validate entities
    report.points.length = {station | association.Examines entities station}.ncard ∧
    (∀ issue ∈ report.issues, issue.station ∈ report.points) ∧
    ((∀ issue ∈ report.issues, issue.device ∈ report.terminals) ↔
      ∀ station, association.Examines entities station → .point station ∉ entities →
        ∀ device, association.Stale station device → association.Gathers entities device) ∧
    ((∀ issue ∈ report.issues, issue.device ∈ report.terminals) →
      (report.issues.map StaleListing.device).eraseDups.length ≤ report.terminals.length) ∧
    (report.terminals.length = (association.askedTerminals entities).eraseDups.length ↔
      ∀ station, association.Examines entities station → .point station ∉ entities →
        ∀ device ∈ association.members station, association.Gathers entities device) := by
  intro association report
  refine ⟨association.point_count entities, ?_, association.issues_counted_iff entities, ?_,
    association.terminals_counted_iff entities⟩
  · intro issue reported
    rw [Association.mem_points_iff]
    exact ((association.mem_issues_iff entities issue).1 reported).1
  · intro counted
    apply erase_dups_length_le
    intro device named
    obtain ⟨issue, reported, same⟩ := List.mem_map.1 named
    exact same ▸ counted issue reported

def releasedElsewhere : List Step :=
  [.attach ⟨"point"⟩ ⟨"kept"⟩ none, .attach ⟨"point"⟩ ⟨"lost"⟩ none,
    .attach ⟨"point"⟩ ⟨"missed"⟩ none, .release ⟨"other"⟩ ⟨"lost"⟩, .release ⟨"other"⟩ ⟨"missed"⟩]

/-- The issues can name terminals that are not counted, and more of them than are counted. The
inspection is given one terminal, and finds two others on the listing of its owner. -/
theorem issues_outnumber_counted_terminals :
    let association := ((start (.unseeded fun _ => 0)).run releasedElsewhere).association
    let report := association.validate [.terminal ⟨"kept"⟩]
    ¬(∀ issue ∈ report.issues, issue.device ∈ report.terminals) ∧
      report.terminals.length < (report.issues.map StaleListing.device).eraseDups.length := by
  decide

end World

end AccessNetwork
