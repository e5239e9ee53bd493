import AccessNetwork.Proofs.Beats
import AccessNetwork.Proofs.Membership

/-!
Worlds that no step can tell apart. They may differ in the traces that questions leave: which
listings and records were ever opened, and which dangling references were forgotten. Every step
gives the same answer in both, writes the same diagnostics and leaves worlds that again cannot be
told apart.
-/

namespace AccessNetwork

set_option autoImplicit false

namespace Association

theorem SameViews.symm {left right : Association} (same : left.SameViews right) :
    right.SameViews left :=
  ⟨fun station => (same.members station).symm, fun device => (same.owner device).symm⟩

section Congruence

variable {left right : Association} (same : left.SameViews right)

include same

theorem same_views_attach (policy : Policy) (joined : Point) (arriving : Terminal) :
    (left.attach policy joined arriving).SameViews (right.attach policy joined arriving) := by
  constructor
  · intro station
    simp only [members_attach, same.members, same.owner]
  · intro device
    simp only [owner_attach, same.owner]

theorem same_views_release (station : Point) (leaving : Terminal) :
    (left.release station leaving).SameViews (right.release station leaving) := by
  constructor
  · intro station
    simp only [members_release, same.members]
  · intro device
    simp only [owner_release, same.owner]

theorem same_views_reclaim (reclaimed : Point) :
    (left.reclaim reclaimed).SameViews (right.reclaim reclaimed) := by
  constructor
  · intro station
    simp only [members_reclaim, same.members]
  · intro device
    simp only [owner_reclaim, same.owner]

theorem foreign_owner_of_same_views (station : Point) (device : Terminal) :
    left.foreignOwner station device = right.foreignOwner station device := by
  rw [foreignOwner, foreignOwner, same.owner]

theorem above_of_same_views (entity : Entity) : left.above entity = right.above entity := by
  cases entity with
  | terminal device => rw [above, above, same.owner]
  | _ => rfl

theorem joined_of_same_views (station : Point) (device : Terminal) :
    left.joined station device = right.joined station device := by
  rw [joined, joined, same.members, same.owner]

theorem validate_of_same_views (entities : List Entity) :
    left.validate entities = right.validate entities := by
  have members : left.members = right.members := funext same.members
  have owner : left.owner = right.owner := funext same.owner
  have stale : left.staleListings = right.staleListings := by
    funext station
    simp only [staleListings, members, owner]
  simp only [validate, inspectedPoints, inspectedTerminals, members, owner, stale]

end Congruence

end Association

/-- The steps that leave the nodes, their identifiers, the settings and the generator alone. -/
def Step.staysInside : Step → Bool
  | .describe _ => true
  | .reclaim _ => true
  | .members _ => true
  | .owner _ => true
  | .associated _ _ => true
  | .validate _ => true
  | .consistent _ => true
  | .beat _ _ _ => true
  | .heartbeats _ _ => true
  | .configFrom _ => true
  | _ => false

namespace World

structure SameOutside (left right : World) : Prop where
  entities : left.entities = right.entities
  identifiers : left.identifiers = right.identifiers
  settings : left.settings = right.settings
  shared : left.shared = right.shared

theorem SameOutside.refl (world : World) : SameOutside world world := ⟨rfl, rfl, rfl, rfl⟩

theorem SameOutside.symm {left right : World} (same : SameOutside left right) :
    SameOutside right left :=
  ⟨same.entities.symm, same.identifiers.symm, same.settings.symm, same.shared.symm⟩

theorem SameOutside.trans {left middle right : World} (first : SameOutside left middle)
    (second : SameOutside middle right) : SameOutside left right :=
  ⟨first.entities.trans second.entities, first.identifiers.trans second.identifiers,
    first.settings.trans second.settings, first.shared.trans second.shared⟩

theorem same_outside_step (world : World) {step : Step} (inside : step.staysInside) :
    SameOutside (world.step step) world := by
  cases step with
  | associated station device =>
      simp only [World.step]
      split <;> exact ⟨rfl, rfl, rfl, rfl⟩
  | beat entity success times =>
      simp only [World.step]
      split <;> exact ⟨rfl, rfl, rfl, rfl⟩
  | heartbeats entity reset => cases reset <;> exact ⟨rfl, rfl, rfl, rfl⟩
  | create | assign | attach | release | environment | readConfig | configure | resetSettings
  | reseed | drawIds => simp [Step.staysInside] at inside
  | _ => exact ⟨rfl, rfl, rfl, rfl⟩

structure Indistinguishable (left right : World) : Prop where
  association : left.association.SameViews right.association
  counts : ∀ entity, left.pulse.heartbeats entity = right.pulse.heartbeats entity
  outside : SameOutside left right

theorem Indistinguishable.refl (world : World) : Indistinguishable world world :=
  ⟨Association.SameViews.refl _, fun _ => rfl, SameOutside.refl world⟩

theorem Indistinguishable.trans {left middle right : World}
    (first : Indistinguishable left middle) (second : Indistinguishable middle right) :
    Indistinguishable left right :=
  ⟨first.association.trans second.association,
    fun entity => (first.counts entity).trans (second.counts entity),
    first.outside.trans second.outside⟩

section Congruence

variable {left right : World} (same : Indistinguishable left right)

include same

theorem label_of_indistinguishable : left.label = right.label := by
  funext entity
  rw [label, label, identifier, identifier, same.outside.identifiers]

theorem config_of_indistinguishable : left.config = right.config := by
  rw [config, config, same.outside.settings]

theorem effective_policy_of_indistinguishable :
    left.effectivePolicy = right.effectivePolicy := by
  funext policy
  rw [effectivePolicy, effectivePolicy, config_of_indistinguishable same]

theorem indistinguishable_assign (entity : Entity) (identifier : Written) :
    Indistinguishable (left.assign entity identifier) (right.assign entity identifier) := by
  have identified : (left.assign entity identifier).identifiers =
      (right.assign entity identifier).identifiers := by
    rw [assign, assign, same.outside.identifiers]
  exact ⟨same.association, same.counts, { same.outside with identifiers := identified }⟩

theorem indistinguishable_create (entity : Entity) (requested : Written) :
    Indistinguishable (left.create entity requested) (right.create entity requested) := by
  unfold create
  rw [same.outside.entities, same.outside.shared]
  split
  · have named := indistinguishable_assign same entity
      (.number (.ofInt right.shared.drawId.1))
    exact ⟨named.association, named.counts,
      { named.outside with entities := rfl, shared := rfl }⟩
  · have named := indistinguishable_assign same entity requested
    exact ⟨named.association, named.counts, { named.outside with entities := rfl }⟩

theorem answer_of_indistinguishable (step : Step) : left.answer step = right.answer step := by
  have labels := label_of_indistinguishable same
  cases step with
  | create entity requested =>
      have created := indistinguishable_create same entity requested
      rw [answer, answer, identifier, identifier, created.outside.identifiers,
        label_of_indistinguishable created]
  | assign entity identifier =>
      have assigned := indistinguishable_assign same entity identifier
      rw [answer, answer, label_of_indistinguishable assigned]
  | describe entity =>
      rw [answer, answer, labels, Association.above_of_same_views same.association]
  | members station =>
      rw [answer, answer, same.association.members, labels]
  | owner device => rw [answer, answer, same.association.owner]
  | associated station device =>
      rw [answer, answer, Association.joined_of_same_views same.association]
  | validate entities =>
      have messages : left.issueMessage = right.issueMessage := by
        funext issue
        rw [issueMessage, issueMessage, labels]
      rw [answer, answer, Association.validate_of_same_views same.association, messages]
  | consistent entities =>
      rw [answer, answer, Association.validate_of_same_views same.association]
  | heartbeats entity reset => rw [answer, answer, same.counts]
  | readConfig => rw [answer, answer, config_of_indistinguishable same]
  | configFrom bindings => cases bindings <;> simp only [answer, same.outside.settings]
  | configure overrides => simp only [answer, same.outside.settings]
  | drawIds count => rw [answer, answer, same.outside.shared]
  | _ => rfl

theorem log_of_indistinguishable (step : Step) : left.log step = right.log step := by
  have labels := label_of_indistinguishable same
  have reading : left.readingLog = right.readingLog := by
    rw [readingLog, readingLog, same.outside.settings]
  have configured := config_of_indistinguishable same
  cases step with
  | attach station device policy =>
      have foreign := Association.foreign_owner_of_same_views same.association station device
      have effective := effective_policy_of_indistinguishable same
      simp only [log, attachLog, effective, labels, reading, configured, foreign]
  | release station device =>
      have foreign := Association.foreign_owner_of_same_views same.association station device
      simp only [log, releaseLog, labels, reading, configured, foreign]
  | readConfig => exact reading
  | configure overrides => simp only [log, configureLog, reading]
  | _ => rfl

theorem same_views_after_of_indistinguishable (step : Step) :
    (left.associationAfter step).SameViews (right.associationAfter step) := by
  cases step with
  | attach station device policy =>
      rw [associationAfter, associationAfter, effective_policy_of_indistinguishable same]
      exact Association.same_views_attach same.association _ station device
  | release station device =>
      exact Association.same_views_release same.association station device
  | reclaim station => exact Association.same_views_reclaim same.association station
  | _ => exact same.association

theorem counts_after_of_indistinguishable (step : Step) (entity : Entity) :
    (left.step step).pulse.heartbeats entity = (right.step step).pulse.heartbeats entity := by
  apply heartbeats_step_congruent (same.counts entity)
  intro outcome
  cases step with
  | beat beaten success times =>
      rw [beats_below_beat, beats_below_beat, Association.above_of_same_views same.association]
  | _ => rfl

theorem same_outside_after_of_indistinguishable (step : Step) :
    SameOutside (left.step step) (right.step step) := by
  have outside := same.outside
  have loaded := congrArg Settings.loaded outside.settings
  cases step with
  | create entity requested => exact (indistinguishable_create same entity requested).outside
  | assign entity identifier => exact (indistinguishable_assign same entity identifier).outside
  | attach station device policy => exact { outside with settings := loaded }
  | release station device =>
      have foreign := Association.foreign_owner_of_same_views same.association station device
      simp only [World.step, release, foreign]
      split
      · exact ⟨outside.entities, outside.identifiers, loaded, outside.shared⟩
      · exact ⟨outside.entities, outside.identifiers, outside.settings, outside.shared⟩
  | environment changes =>
      have changed : (left.changeEnvironment changes).settings =
          (right.changeEnvironment changes).settings := by
        rw [changeEnvironment, changeEnvironment, outside.settings]
      exact { outside with settings := changed }
  | readConfig => exact { outside with settings := loaded }
  | configure overrides =>
      have configured := congrArg
        (fun settings : Settings =>
          if overrides.isMissing then settings else settings.configured overrides)
        outside.settings
      exact { outside with settings := configured }
  | resetSettings => exact { outside with settings := congrArg Settings.reset outside.settings }
  | reseed seed => exact { outside with shared := congrArg (·.reset seed) outside.shared }
  | drawIds count =>
      have drawn := congrArg (fun shared => (shared.drawIds count).2) outside.shared
      exact { outside with shared := drawn }
  | _ => exact ((left.same_outside_step rfl).trans outside).trans (right.same_outside_step rfl).symm

/-- What cannot be told apart before a step cannot be told apart after it. -/
theorem indistinguishable_step (step : Step) :
    Indistinguishable (left.step step) (right.step step) :=
  ⟨((left.same_views_step step).trans (same_views_after_of_indistinguishable same step)).trans
      (right.same_views_step step).symm,
    counts_after_of_indistinguishable same step,
    same_outside_after_of_indistinguishable same step⟩

end Congruence

theorem indistinguishable_run {left right : World} (same : Indistinguishable left right)
    (steps : List Step) : Indistinguishable (left.run steps) (right.run steps) := by
  induction steps using List.reverseRecOn with
  | nil => exact same
  | append_singleton steps step induction =>
      rw [run_snoc, run_snoc]
      exact indistinguishable_step induction step

theorem gather_log_of_indistinguishable {left right : World}
    (same : Indistinguishable left right) (steps : List Step) :
    left.gather log steps = right.gather log steps := by
  induction steps using List.reverseRecOn with
  | nil => rfl
  | append_singleton steps step induction =>
      rw [gather_snoc, gather_snoc, induction,
        log_of_indistinguishable (indistinguishable_run same steps) step]

end World

end AccessNetwork
