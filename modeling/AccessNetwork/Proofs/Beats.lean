import AccessNetwork.Proofs.Views

/-!
What steps do to the heartbeat counts. A beat adds to the own count of the node and to the children
count of the node above it at that moment; a reset brings both counts of a node to zero; nothing
else changes a count.
-/

namespace AccessNetwork

set_option autoImplicit false

theorem Counter.eq_of_counts {left right : Counter}
    (same : ∀ outcome, left.count outcome = right.count outcome) : left = right := by
  have success : left.success = right.success := same true
  have failure : left.failure = right.failure := same false
  cases left
  cases right
  simp_all

theorem Heartbeats.eq_of_counts {left right : Heartbeats}
    (own : ∀ outcome, left.own.count outcome = right.own.count outcome)
    (children : ∀ outcome, left.children.count outcome = right.children.count outcome) :
    left = right := by
  cases left
  cases right
  rw [Heartbeats.mk.injEq]
  exact ⟨Counter.eq_of_counts own, Counter.eq_of_counts children⟩

@[simp] theorem Heartbeats.own_count_zero (outcome : Bool) : zero.own.count outcome = 0 := by
  cases outcome <;> rfl

@[simp] theorem Heartbeats.children_count_zero (outcome : Bool) :
    zero.children.count outcome = 0 := by
  cases outcome <;> rfl

namespace Pulse

theorem heartbeats_bump_own (pulse : Pulse) (bumped entity : Entity) (success : Bool) :
    (pulse.bumpOwn bumped success).heartbeats entity =
      if entity = bumped then
        { pulse.heartbeats entity with own := (pulse.heartbeats entity).own.bump success }
      else pulse.heartbeats entity := by
  by_cases same : entity = bumped
  · simp [bumpOwn, heartbeats, same]
  · simp [bumpOwn, heartbeats, Table.get_set, same]

theorem heartbeats_bump_children (pulse : Pulse) (bumped entity : Entity) (success : Bool) :
    (pulse.bumpChildren bumped success).heartbeats entity =
      if entity = bumped then
        { pulse.heartbeats entity with
          children := (pulse.heartbeats entity).children.bump success }
      else pulse.heartbeats entity := by
  by_cases same : entity = bumped
  · simp [bumpChildren, heartbeats, same]
  · simp [bumpChildren, heartbeats, Table.get_set, same]

theorem heartbeats_reset (pulse : Pulse) (cleared entity : Entity) :
    (pulse.reset cleared).heartbeats entity =
      if entity = cleared then .zero else pulse.heartbeats entity := by
  simp only [reset, heartbeats, Table.get_set]
  split <;> rfl

theorem own_count_record (pulse : Pulse) (association : Association) (beaten entity : Entity)
    (success outcome : Bool) :
    ((pulse.record association beaten success).heartbeats entity).own.count outcome =
      (pulse.heartbeats entity).own.count outcome +
        if entity = beaten ∧ success = outcome then 1 else 0 := by
  have beating : ((pulse.bumpOwn beaten success).heartbeats entity).own.count outcome =
      (pulse.heartbeats entity).own.count outcome +
        if entity = beaten ∧ success = outcome then 1 else 0 := by
    rw [heartbeats_bump_own]
    by_cases same : entity = beaten
    · simp only [same, if_true, true_and, Counter.count_bump]
    · simp [same]
  simp only [record]
  split
  · rw [← beating, heartbeats_bump_children]
    split <;> rfl
  · exact beating

theorem children_count_record (pulse : Pulse) (association : Association)
    (beaten entity : Entity) (success outcome : Bool) :
    ((pulse.record association beaten success).heartbeats entity).children.count outcome =
      (pulse.heartbeats entity).children.count outcome +
        if association.above beaten = some entity ∧ success = outcome then 1 else 0 := by
  have beating : ((pulse.bumpOwn beaten success).heartbeats entity).children =
      (pulse.heartbeats entity).children := by
    rw [heartbeats_bump_own]
    split <;> rfl
  simp only [record]
  split
  · rename_i above found
    rw [heartbeats_bump_children]
    by_cases same : entity = above
    · rw [if_pos same, Counter.count_bump, beating]
      simp [found, same]
    · have apart : ¬above = entity := fun equal => same equal.symm
      simp [found, same, apart, beating]
  · rename_i found
    simp [found, beating]

/-- A number read off the counts that a beat raises by one, or not at all. -/
theorem read_record_times (read : Heartbeats → Nat) {association : Association}
    {beaten entity : Entity} {success : Bool} {counted : Prop} [Decidable counted]
    (once : ∀ pulse : Pulse, read ((pulse.record association beaten success).heartbeats entity) =
      read (pulse.heartbeats entity) + if counted then 1 else 0)
    (times : Nat) (pulse : Pulse) :
    read ((recordTimes association beaten success times pulse).heartbeats entity) =
      read (pulse.heartbeats entity) + if counted then times else 0 := by
  induction times generalizing pulse with
  | zero => simp [recordTimes]
  | succ times induction =>
      rw [recordTimes, induction, once]
      split <;> omega

end Pulse

/-- Taking the counts of a node with a reset, which starts them again from zero. -/
def Step.restarts (entity : Entity) : Step → Bool
  | .heartbeats asked reset => reset && asked == entity
  | _ => false

def Step.beatsOn (entity : Entity) (outcome : Bool) : Step → Nat
  | .beat beaten success times => if beaten = entity ∧ success = outcome then times else 0
  | _ => 0

def Step.IsBeat : Step → Prop
  | .beat _ _ _ => True
  | _ => False

/-- The steps that neither change an association nor count or reset anything. -/
def Step.isIdle : Step → Bool
  | .attach _ _ _ => false
  | .release _ _ => false
  | .reclaim _ => false
  | .beat _ _ _ => false
  | .heartbeats _ reset => !reset
  | _ => true

namespace World

/-- How often a step beats, with an outcome, terminals that a node owns at that moment. -/
def beatsBelow (entity : Entity) (outcome : Bool) (world : World) : Step → Nat
  | .beat (.terminal device) success times =>
      if (world.association.owner device).map .point = some entity ∧ success = outcome then times
      else 0
  | _ => 0

theorem beats_below_beat (entity beaten : Entity) (success outcome : Bool) (world : World)
    (times : Nat) :
    world.beatsBelow entity outcome (.beat beaten success times) =
      if world.association.above beaten = some entity ∧ success = outcome then times else 0 := by
  cases beaten <;> simp [beatsBelow, Association.above]

/-- The counts that a step leaves, but for records that it opens at zero. -/
def pulseAfter (world : World) : Step → Pulse
  | .beat entity success times =>
      .recordTimes world.association entity success times world.pulse
  | .heartbeats entity true => world.pulse.reset entity
  | _ => world.pulse

theorem heartbeats_step (world : World) (step : Step) (entity : Entity) :
    (world.step step).pulse.heartbeats entity = (world.pulseAfter step).heartbeats entity := by
  cases step with
  | create created requested =>
      simp only [World.step, create, pulseAfter]
      split <;> rfl
  | associated station device =>
      simp only [World.step, pulseAfter]
      split <;> rfl
  | release station device =>
      simp only [World.step, release, pulseAfter]
      split <;> rfl
  | beat beaten success times =>
      simp only [World.step, pulseAfter]
      split
      · rename_i never
        rw [never]
        rfl
      · rfl
  | heartbeats asked reset =>
      cases reset with
      | true => rfl
      | false => exact world.pulse.heartbeats_open_record asked entity
  | _ => rfl

theorem same_views_step_of_idle (world : World) {step : Step} (idle : step.isIdle) :
    (world.step step).association.SameViews world.association := by
  have unchanged : world.associationAfter step = world.association := by
    cases step with
    | attach station device policy => simp [Step.isIdle] at idle
    | release station device => simp [Step.isIdle] at idle
    | reclaim station => simp [Step.isIdle] at idle
    | _ => rfl
  rw [← unchanged]
  exact world.same_views_step step

theorem heartbeats_step_of_idle (world : World) {step : Step} (idle : step.isIdle)
    (entity : Entity) :
    (world.step step).pulse.heartbeats entity = world.pulse.heartbeats entity := by
  rw [heartbeats_step]
  cases step with
  | beat beaten success times => simp [Step.isIdle] at idle
  | heartbeats asked reset =>
      cases reset with
      | true => simp [Step.isIdle] at idle
      | false => rfl
  | _ => rfl

theorem heartbeats_step_unbeaten (world : World) {step : Step} (unbeaten : ¬step.IsBeat)
    (entity : Entity) :
    (world.step step).pulse.heartbeats entity =
      if step.restarts entity then .zero else world.pulse.heartbeats entity := by
  rw [heartbeats_step]
  cases step with
  | beat beaten success times => exact (unbeaten trivial).elim
  | heartbeats asked reset =>
      cases reset with
      | true =>
          rw [pulseAfter, Pulse.heartbeats_reset]
          simp only [Step.restarts, Bool.true_and, beq_iff_eq, eq_comm (a := asked)]
      | false => rfl
  | _ => rfl

theorem own_count_step (entity : Entity) (outcome : Bool) (world : World) (step : Step) :
    ((world.step step).pulse.heartbeats entity).own.count outcome =
      if step.restarts entity then 0
      else (world.pulse.heartbeats entity).own.count outcome + step.beatsOn entity outcome := by
  cases step with
  | beat beaten success times =>
      have recorded := Pulse.read_record_times (fun counts => counts.own.count outcome)
        (fun pulse => pulse.own_count_record world.association beaten entity success outcome)
        times world.pulse
      rw [heartbeats_step, pulseAfter, recorded]
      simp [Step.restarts, Step.beatsOn, eq_comm]
  | _ =>
      rw [heartbeats_step_unbeaten world (by simp [Step.IsBeat])]
      split
      · exact Heartbeats.own_count_zero outcome
      · rfl

theorem children_count_step (entity : Entity) (outcome : Bool) (world : World) (step : Step) :
    ((world.step step).pulse.heartbeats entity).children.count outcome =
      if step.restarts entity then 0
      else (world.pulse.heartbeats entity).children.count outcome +
        world.beatsBelow entity outcome step := by
  cases step with
  | beat beaten success times =>
      have recorded := Pulse.read_record_times (fun counts => counts.children.count outcome)
        (fun pulse => pulse.children_count_record world.association beaten entity success outcome)
        times world.pulse
      rw [heartbeats_step, pulseAfter, recorded, beats_below_beat]
      simp [Step.restarts]
  | _ =>
      rw [heartbeats_step_unbeaten world (by simp [Step.IsBeat])]
      split
      · exact Heartbeats.children_count_zero outcome
      · rfl

theorem heartbeats_step_congruent {left right : World} {step : Step} {entity : Entity}
    (counts : left.pulse.heartbeats entity = right.pulse.heartbeats entity)
    (credited : ∀ outcome, left.beatsBelow entity outcome step =
      right.beatsBelow entity outcome step) :
    (left.step step).pulse.heartbeats entity = (right.step step).pulse.heartbeats entity := by
  apply Heartbeats.eq_of_counts
  · intro outcome
    simp only [own_count_step, counts]
  · intro outcome
    simp only [children_count_step, counts, credited]

end World

end AccessNetwork
