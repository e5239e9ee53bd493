import AccessNetwork.Proofs.Membership

/-!
How a listing becomes stale, and how it ceases to be. A step makes at most those pairs stale whose
point it passes over as the owner; it heals only the pair that it names. Healing needs a call for
that very pair: detaching a terminal from its owner leaves older stale listings of it alone. A call
that leaves a stale pair behind says so in one line, if diagnostics are on, and no other call does.
-/

namespace AccessNetwork

open AccessNetwork.Identity

set_option autoImplicit false

namespace Association

theorem stale_iff_of_same_views {left right : Association} (same : left.SameViews right)
    (station : Point) (device : Terminal) :
    left.Stale station device ↔ right.Stale station device := by
  unfold Stale
  rw [same.members, same.owner]

theorem stale_attach {association : Association} (kept : association.WellKept) (policy : Policy)
    (joined station : Point) (arriving device : Terminal) :
    (association.attach policy joined arriving).Stale station device ↔
      (association.Stale station device ∧ ¬(station = joined ∧ device = arriving)) ∨
        (device = arriving ∧ association.owner arriving = some station ∧ station ≠ joined ∧
          policy ≠ .detach) := by
  unfold Stale
  rw [mem_members_attach_iff, owner_attach]
  by_cases same : device = arriving
  · subst same
    by_cases joining : station = joined
    · simp [joining]
    · have elsewhere : ¬joined = station := fun equal => joining equal.symm
      by_cases owning : association.owner device = some station
      · -- The owner lists the terminal, so it is the only new pair, unless it is struck.
        have listed := kept.listed station device owning
        simp [joining, elsewhere, owning, listed]
      · simp [joining, elsewhere, owning]
  · simp [same]

theorem stale_release {association : Association} (kept : association.WellKept)
    (left station : Point) (leaving device : Terminal) :
    (association.release left leaving).Stale station device ↔
      (association.Stale station device ∧ ¬(station = left ∧ device = leaving)) ∨
        (device = leaving ∧ association.owner leaving = some station ∧ station ≠ left) := by
  unfold Stale
  rw [mem_members_release_iff, owner_release]
  by_cases same : device = leaving
  · subst same
    by_cases owning : association.owner device = some station
    · have listed := kept.listed station device owning
      simp [owning, listed]
    · simp [owning]
  · simp [same]

theorem stale_reclaim {association : Association} (kept : association.WellKept)
    (reclaimed station : Point) (device : Terminal) :
    (association.reclaim reclaimed).Stale station device ↔
      association.Stale station device ∨
        (station = reclaimed ∧ association.owner device = some reclaimed) := by
  unfold Stale
  rw [members_reclaim, owner_reclaim]
  by_cases owning : association.owner device = some reclaimed
  · by_cases same : station = reclaimed
    · subst same
      simp [owning, kept.listed station device owning]
    · have elsewhere : ¬reclaimed = station := fun equal => same equal.symm
      simp [owning, same, elsewhere]
  · simp [owning]

end Association

/-- The pair that a call names is in order after the call. -/
def Step.Heals (station : Point) (device : Terminal) : Step → Prop
  | .attach joined arriving _ => station = joined ∧ device = arriving
  | .release left leaving => station = left ∧ device = leaving
  | _ => False

/-- The diagnostics about a point and a terminal, as opposed to those about the environment. -/
def Diagnostic.concernsPair : Diagnostic → Bool
  | .ignoredEnvironment _ => false
  | _ => true

namespace World

/-- A step strands a terminal at its owner, which lists it further and is its owner no more. -/
def Strands (world : World) (station : Point) (device : Terminal) : Step → Prop
  | .attach joined arriving policy =>
      device = arriving ∧ world.association.owner arriving = some station ∧ station ≠ joined ∧
        world.effectivePolicy policy ≠ .detach
  | .release left leaving =>
      device = leaving ∧ world.association.owner leaving = some station ∧ station ≠ left
  | .reclaim reclaimed => station = reclaimed ∧ world.association.owner device = some reclaimed
  | _ => False

theorem stale_step {world : World} (kept : world.association.WellKept) (step : Step)
    (station : Point) (device : Terminal) :
    (world.step step).association.Stale station device ↔
      (world.association.Stale station device ∧ ¬step.Heals station device) ∨
        world.Strands station device step := by
  rw [Association.stale_iff_of_same_views (world.same_views_step step)]
  cases step with
  | attach joined arriving policy =>
      exact Association.stale_attach kept _ joined station arriving device
  | release left leaving => exact Association.stale_release kept left station leaving device
  | reclaim reclaimed =>
      simpa [associationAfter, Step.Heals, Strands] using
        Association.stale_reclaim kept reclaimed station device
  | _ => simp [associationAfter, Step.Heals, Strands]

def BecomesStale (world : World) (step : Step) (station : Point) (device : Terminal) : Prop :=
  (world.step step).association.Stale station device ∧ ¬world.association.Stale station device

theorem becomes_stale_iff {world : World} (kept : world.association.WellKept) (step : Step)
    (station : Point) (device : Terminal) :
    world.BecomesStale step station device ↔ world.Strands station device step := by
  unfold BecomesStale
  rw [stale_step kept]
  constructor
  · intro becoming
    obtain ⟨⟨before, _⟩ | stranded, fresh⟩ := becoming
    · exact (fresh before).elim
    · exact stranded
  · intro stranded
    refine ⟨.inr stranded, fun before => before.2 ?_⟩
    cases step with
    | attach joined arriving policy => exact stranded.1 ▸ stranded.2.1
    | release left leaving => exact stranded.1 ▸ stranded.2.1
    | reclaim reclaimed => exact stranded.1 ▸ stranded.2
    | _ => exact stranded.elim

def pairLog (world : World) (step : Step) : List Diagnostic :=
  (world.log step).filter Diagnostic.concernsPair

def strandingLine (world : World) (station : Point) (device : Terminal) : Step → Option Diagnostic
  | .attach joined _ _ =>
      some (.stillListed (world.label (.terminal device)) (world.label (.point joined))
        (world.label (.point station)))
  | .release left _ =>
      some (.clearedOwner (world.label (.point station)) (world.label (.terminal device))
        (world.label (.point left)))
  | _ => none

theorem text_of_stranding_line {world : World} {station : Point} {device : Terminal} {step : Step}
    {line : Diagnostic} (found : world.strandingLine station device step = some line) :
    (∀ joined arriving policy, step = .attach joined arriving policy →
      line.text = "addMember: " ++ world.label (.terminal device) ++ " moved to " ++
        world.label (.point joined) ++ " but is still listed under " ++
          world.label (.point station)) ∧
    (∀ left leaving, step = .release left leaving →
      line.text = "removeMember: clearing owner " ++ world.label (.point station) ++ " of " ++
        world.label (.terminal device) ++ " via " ++ world.label (.point left)) := by
  constructor
  · intro joined arriving policy attaching
    subst attaching
    rw [strandingLine, Option.some.injEq] at found
    subst found
    rfl
  · intro left leaving releasing
    subst releasing
    rw [strandingLine, Option.some.injEq] at found
    subst found
    rfl

theorem filter_reading_log (world : World) :
    world.readingLog.filter Diagnostic.concernsPair = [] := by
  rcases ignored : world.settings.ignored with _ | error <;>
    simp [readingLog, ignored, Diagnostic.concernsPair]

theorem pair_log_of_strands {world : World} {step : Step} {station : Point} {device : Terminal}
    (stranded : world.Strands station device step) (debugging : world.config.debug = true) :
    world.pairLog step = (world.strandingLine station device step).toList := by
  cases step with
  | attach joined arriving policy =>
      obtain ⟨same, owning, elsewhere, keeping⟩ := stranded
      subst same
      have foreign : world.association.foreignOwner joined device = some station :=
        (Association.foreign_owner_eq_some_iff _ joined station device).2 ⟨owning, elsewhere⟩
      have retaining : world.effectivePolicy policy = .retain := by
        cases effective : world.effectivePolicy policy with
        | retain => rfl
        | detach => exact (keeping effective).elim
      simp [pairLog, log, attachLog, strandingLine, filter_reading_log, foreign, retaining,
        debugging, Diagnostic.concernsPair]
  | release left leaving =>
      obtain ⟨same, owning, elsewhere⟩ := stranded
      subst same
      have foreign : world.association.foreignOwner left device = some station :=
        (Association.foreign_owner_eq_some_iff _ left station device).2 ⟨owning, elsewhere⟩
      simp [pairLog, log, releaseLog, strandingLine, filter_reading_log, foreign, debugging,
        Diagnostic.concernsPair]
  | reclaim reclaimed => rfl
  | _ => exact stranded.elim

theorem strands_of_pair_log_ne_nil {world : World} {step : Step}
    (written : world.pairLog step ≠ []) :
    world.config.debug = true ∧ ∃ station device, world.Strands station device step := by
  cases step with
  | attach joined arriving policy =>
      cases effective : world.effectivePolicy policy with
      | detach => simp [pairLog, log, attachLog, filter_reading_log, effective] at written
      | retain =>
          cases found : world.association.foreignOwner joined arriving with
          | none => simp [pairLog, log, attachLog, filter_reading_log, effective, found] at written
          | some previous =>
              have foreign :=
                (Association.foreign_owner_eq_some_iff _ joined previous arriving).1 found
              have keeping : world.effectivePolicy policy ≠ .detach := by simp [effective]
              refine ⟨?_, previous, arriving, rfl, foreign.1, foreign.2, keeping⟩
              by_contra silent
              simp [pairLog, log, attachLog, filter_reading_log, effective, found,
                silent] at written
  | release left leaving =>
      cases found : world.association.foreignOwner left leaving with
      | none => simp [pairLog, log, releaseLog, found] at written
      | some previous =>
          have foreign := (Association.foreign_owner_eq_some_iff _ left previous leaving).1 found
          refine ⟨?_, previous, leaving, rfl, foreign.1, foreign.2⟩
          by_contra silent
          simp [pairLog, log, releaseLog, filter_reading_log, found, silent] at written
  | readConfig => exact (written world.filter_reading_log).elim
  | configure overrides =>
      apply (written ?_).elim
      rw [pairLog, log, configureLog]
      split
      · rfl
      · exact world.filter_reading_log
  | _ => exact (written rfl).elim

/-- From any reachable network: the exact pairs that a step heals and strands, and for a call that
attaches or releases a terminal, its one line about a pair, written if diagnostics are on and it
makes a pair stale. The line names the two and the point of the call by their labels, which show the
identifiers of this moment. -/
theorem stale_pairs_and_diagnostics (shared : SharedGenerator) (steps : List Step) (step : Step) :
    let world := (start shared).run steps
    (∀ station device,
      (world.step step).association.Stale station device ↔
        (world.association.Stale station device ∧ ¬step.Heals station device) ∨
          world.Strands station device step) ∧
    (∀ station, world.label (.point station) =
      "AP(" ++ (world.identifier (.point station)).spelling ++ ")") ∧
    (∀ device, world.label (.terminal device) =
      "RT(" ++ (world.identifier (.terminal device)).spelling ++ ")") ∧
    ∀ named, step.Names named →
      (world.pairLog step ≠ [] ↔
        world.config.debug = true ∧ ∃ station device, world.BecomesStale step station device) ∧
      ∀ station device, world.BecomesStale step station device → world.config.debug = true →
        ∃ line, world.strandingLine station device step = some line ∧
          world.pairLog step = [line] ∧
          (∀ joined arriving policy, step = .attach joined arriving policy →
            line.text = "addMember: " ++ world.label (.terminal device) ++ " moved to " ++
              world.label (.point joined) ++ " but is still listed under " ++
                world.label (.point station)) ∧
          (∀ left leaving, step = .release left leaving →
            line.text = "removeMember: clearing owner " ++ world.label (.point station) ++
              " of " ++ world.label (.terminal device) ++ " via " ++
                world.label (.point left)) := by
  intro world
  have kept := well_kept_run shared steps
  refine ⟨stale_step kept step, world.label_point, world.label_terminal, ?_⟩
  intro named naming
  have speaking : ∀ station device, world.BecomesStale step station device →
      world.config.debug = true →
        ∃ line, world.strandingLine station device step = some line ∧
          world.pairLog step = [line] := by
    intro station device fresh debugging
    have written := pair_log_of_strands ((becomes_stale_iff kept step station device).1 fresh)
      debugging
    cases step with
    | attach joined arriving policy => exact ⟨_, rfl, written⟩
    | release left leaving => exact ⟨_, rfl, written⟩
    | _ => exact naming.elim
  refine ⟨⟨?_, ?_⟩, ?_⟩
  · intro written
    obtain ⟨debugging, station, device, stranded⟩ := strands_of_pair_log_ne_nil written
    exact ⟨debugging, station, device, (becomes_stale_iff kept step station device).2 stranded⟩
  · intro created
    obtain ⟨debugging, station, device, fresh⟩ := created
    obtain ⟨line, _, written⟩ := speaking station device fresh debugging
    rw [written]
    exact List.cons_ne_nil line []
  · intro station device fresh debugging
    obtain ⟨line, found, written⟩ := speaking station device fresh debugging
    obtain ⟨moving, clearing⟩ := text_of_stranding_line found
    exact ⟨line, found, written, moving, clearing⟩

end World

end AccessNetwork
