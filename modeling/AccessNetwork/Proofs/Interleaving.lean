import AccessNetwork.Proofs.Beats
import AccessNetwork.Proofs.Commuting
import AccessNetwork.Proofs.History

/-!
Runs that interleave the same calls in different ways. A call is about one node: the terminal that
it attaches or releases, or the node that it beats. Calls about different nodes commute as far as
owners, listings as sets and counts can tell, although terminals share listings and the counts of
their owners; so all these are decided by the calls about each node in their own order.
-/

namespace AccessNetwork

open AccessNetwork.Identity

set_option autoImplicit false

/-- A call that attaches or releases a terminal or counts a beat, with the policy it runs under. -/
inductive Call where
  | attach (station : Point) (device : Terminal) (policy : Policy)
  | release (station : Point) (device : Terminal)
  | beat (entity : Entity) (success : Bool)
  deriving DecidableEq, Repr

namespace Call

def subject : Call → Entity
  | .attach _ device _ => .terminal device
  | .release _ device => .terminal device
  | .beat entity _ => entity

def step : Call → Step
  | .attach station device policy => .attach station device (some policy)
  | .release station device => .release station device
  | .beat entity success => .beat entity success 1

end Call

/-- The steps that an interleaving may not contain: reclaiming a point and resetting counts. -/
def Step.Disturbs : Step → Prop
  | .reclaim _ => True
  | .heartbeats _ reset => reset
  | _ => False

namespace World

/-- What a step calls. Beats are called one by one. -/
def callsOf (world : World) : Step → List Call
  | .attach station device perCall => [.attach station device (world.effectivePolicy perCall)]
  | .release station device => [.release station device]
  | .beat entity success times => List.replicate times (.beat entity success)
  | _ => []

def calls (world : World) : List Step → List Call
  | [] => []
  | next :: rest => world.callsOf next ++ (world.step next).calls rest

structure SameStanding (device : Terminal) (left right : World) : Prop where
  owner : left.association.owner device = right.association.owner device
  listed : ∀ station,
    device ∈ left.association.members station ↔ device ∈ right.association.members station

theorem SameStanding.symm {device : Terminal} {left right : World}
    (same : SameStanding device left right) : SameStanding device right left :=
  ⟨same.owner.symm, fun station => (same.listed station).symm⟩

theorem SameStanding.trans {device : Terminal} {left middle right : World}
    (first : SameStanding device left middle) (second : SameStanding device middle right) :
    SameStanding device left right :=
  ⟨first.owner.trans second.owner,
    fun station => (first.listed station).trans (second.listed station)⟩

theorem same_standing_of_same_views {left right : World}
    (same : left.association.SameViews right.association) (device : Terminal) :
    SameStanding device left right := by
  constructor
  · exact same.owner device
  · intro station
    rw [same.members]

theorem same_standing_call_of_other {call : Call} {device : Terminal}
    (other : call.subject ≠ .terminal device) (world : World) :
    SameStanding device (world.step call.step) world := by
  cases call with
  | attach station arriving policy =>
      have apart : ¬device = arriving := fun same => other (same ▸ rfl)
      constructor
      · rw [Call.step, owner_step, associationAfter, Association.owner_attach, if_neg apart]
      · intro listing
        rw [mem_members_step_iff]
        simp [Call.step, Step.Joins, Strikes, apart]
  | release station leaving =>
      have apart : ¬device = leaving := fun same => other (same ▸ rfl)
      constructor
      · rw [Call.step, owner_step, associationAfter, Association.owner_release, if_neg apart]
      · intro listing
        rw [mem_members_step_iff]
        simp [Call.step, Step.Joins, Strikes, apart]
  | beat entity success => exact same_standing_of_same_views (world.same_views_step _) device

/-- What a call does to a terminal depends on nothing but the owner and the listings that it has. -/
theorem same_standing_call {device : Terminal} {left right : World}
    (same : SameStanding device left right) (call : Call) :
    SameStanding device (left.step call.step) (right.step call.step) := by
  cases call with
  | attach station arriving policy =>
      constructor
      · simp only [Call.step, owner_step, associationAfter, Association.owner_attach, same.owner]
      · intro listing
        simp only [Call.step, mem_members_step_iff, Step.Joins, Strikes, effectivePolicy,
          Option.getD_some, same.owner, same.listed]
  | release station leaving =>
      constructor
      · simp only [Call.step, owner_step, associationAfter, Association.owner_release, same.owner]
      · intro listing
        simp only [Call.step, mem_members_step_iff, Step.Joins, Strikes, same.listed]
  | beat entity success =>
      have kept (world : World) :
          SameStanding device (world.step (Call.beat entity success).step) world :=
        same_standing_of_same_views (world.same_views_step _) device
      exact ((kept left).trans same).trans (kept right).symm

/-- Nobody can tell the two worlds apart by owners, by listings as sets, or by counts. -/
structure Alike (left right : World) : Prop where
  standing : ∀ device, SameStanding device left right
  counts : ∀ entity, left.pulse.heartbeats entity = right.pulse.heartbeats entity

theorem Alike.refl (world : World) : Alike world world :=
  ⟨fun _ => ⟨rfl, fun _ => Iff.rfl⟩, fun _ => rfl⟩

theorem Alike.symm {left right : World} (alike : Alike left right) : Alike right left :=
  ⟨fun device => (alike.standing device).symm, fun entity => (alike.counts entity).symm⟩

theorem Alike.trans {left middle right : World} (first : Alike left middle)
    (second : Alike middle right) : Alike left right :=
  ⟨fun device => (first.standing device).trans (second.standing device),
    fun entity => (first.counts entity).trans (second.counts entity)⟩

theorem alike_equivalence : Equivalence Alike := ⟨Alike.refl, Alike.symm, Alike.trans⟩

theorem call_restarts_nothing (call : Call) (entity : Entity) :
    call.step.restarts entity = false := by
  cases call <;> rfl

theorem beats_below_call {left right : World} {call : Call}
    (same : ∀ device, call.subject = .terminal device → SameStanding device left right)
    (entity : Entity) (outcome : Bool) :
    left.beatsBelow entity outcome call.step = right.beatsBelow entity outcome call.step := by
  cases call with
  | beat beaten success =>
      cases beaten with
      | terminal device => simp only [Call.step, beatsBelow, (same device rfl).owner]
      | _ => rfl
  | _ => rfl

theorem alike_call (left right : World) (call : Call) (alike : Alike left right) :
    Alike (left.step call.step) (right.step call.step) := by
  constructor
  · intro device
    exact same_standing_call (alike.standing device) call
  · intro entity
    apply heartbeats_step_congruent (alike.counts entity)
    intro outcome
    exact beats_below_call (fun device _ => alike.standing device) entity outcome

/-- Calls about different nodes may change places. -/
theorem calls_commute (world : World) (first second : Call)
    (apart : first.subject ≠ second.subject) :
    Alike ((world.step first.step).step second.step)
      ((world.step second.step).step first.step) := by
  constructor
  · intro device
    by_cases named : first.subject = .terminal device
    · -- The second call is not about this terminal, before the first or after it.
      have other : second.subject ≠ .terminal device := fun same => apart (named.trans same.symm)
      have after := same_standing_call_of_other other (world.step first.step)
      have before := same_standing_call (same_standing_call_of_other other world) first
      exact after.trans before.symm
    · have before := same_standing_call (same_standing_call_of_other named world) second
      have after := same_standing_call_of_other named (world.step second.step)
      exact before.trans after.symm
  · intro entity
    have firstCredit : ∀ outcome, (world.step second.step).beatsBelow entity outcome first.step =
        world.beatsBelow entity outcome first.step := by
      intro outcome
      apply beats_below_call
      intro device named
      exact same_standing_call_of_other (fun same => apart (named.trans same.symm)) world
    have secondCredit : ∀ outcome, (world.step first.step).beatsBelow entity outcome second.step =
        world.beatsBelow entity outcome second.step := by
      intro outcome
      apply beats_below_call
      intro device named
      exact same_standing_call_of_other (fun same => apart (same.trans named.symm)) world
    apply Heartbeats.eq_of_counts
    · intro outcome
      simp only [own_count_step, call_restarts_nothing, Bool.false_eq_true, if_false]
      omega
    · intro outcome
      simp only [children_count_step, call_restarts_nothing, Bool.false_eq_true, if_false,
        firstCredit, secondCredit]
      omega

theorem run_calls (world : World) (calls : List Call) :
    world.run (calls.map Call.step) =
      calls.foldl (fun before call => before.step call.step) world := by
  rw [run, List.foldl_map]

theorem alike_run_calls {left right : World} (alike : Alike left right) (calls : List Call) :
    Alike (left.run (calls.map Call.step)) (right.run (calls.map Call.step)) := by
  rw [run_calls, run_calls]
  exact foldl_alike alike_call calls alike

theorem alike_of_idle (world : World) {step : Step} (idle : step.isIdle) :
    Alike (world.step step) world :=
  ⟨same_standing_of_same_views (world.same_views_step_of_idle idle),
    world.heartbeats_step_of_idle idle⟩

theorem same_standing_beat (world : World) (entity : Entity) (success : Bool) (times : Nat)
    (device : Terminal) :
    SameStanding device (world.step (.beat entity success times)) world :=
  same_standing_of_same_views (world.same_views_step _) device

theorem alike_beat_once_more (world : World) (beaten : Entity) (success : Bool) (times : Nat) :
    Alike (world.step (.beat beaten success (times + 1)))
      ((world.step (.beat beaten success 1)).step (.beat beaten success times)) := by
  constructor
  · intro device
    have once := world.same_standing_beat beaten success 1 device
    have others :=
      (world.step (.beat beaten success 1)).same_standing_beat beaten success times device
    exact (world.same_standing_beat beaten success (times + 1) device).trans
      (others.trans once).symm
  · intro entity
    have above : (world.step (.beat beaten success 1)).association.above beaten =
        world.association.above beaten := by
      cases beaten <;> simp [Association.above, owner_step, associationAfter]
    apply Heartbeats.eq_of_counts
    · intro outcome
      simp only [own_count_step, Step.restarts, Step.beatsOn, Bool.false_eq_true, if_false]
      split_ifs <;> omega
    · intro outcome
      simp only [children_count_step, Step.restarts, beats_below_beat, above, Bool.false_eq_true,
        if_false]
      split_ifs <;> omega

theorem alike_beat_one_by_one (world : World) (entity : Entity) (success : Bool) (times : Nat) :
    Alike (world.step (.beat entity success times))
      (world.run ((List.replicate times (Call.beat entity success)).map Call.step)) := by
  induction times generalizing world with
  | zero => exact Alike.refl world
  | succ times induction =>
      have others := induction (world.step (.beat entity success 1))
      exact (world.alike_beat_once_more entity success times).trans others

theorem alike_calls_of_step (world : World) {step : Step} (calm : ¬step.Disturbs) :
    Alike (world.step step) (world.run ((world.callsOf step).map Call.step)) := by
  cases step with
  | attach station device perCall => exact Alike.refl _
  | release station device => exact Alike.refl _
  | beat entity success times => exact world.alike_beat_one_by_one entity success times
  | reclaim station => exact (calm trivial).elim
  | heartbeats entity reset =>
      cases reset with
      | true => exact (calm rfl).elim
      | false => exact world.alike_of_idle rfl
  | _ => exact world.alike_of_idle rfl

theorem alike_calls (world : World) {steps : List Step} (calm : ∀ step ∈ steps, ¬step.Disturbs) :
    Alike (world.run steps) (world.run ((world.calls steps).map Call.step)) := by
  induction steps generalizing world with
  | nil => exact Alike.refl world
  | cons next rest induction =>
      have now := world.alike_calls_of_step (calm next List.mem_cons_self)
      have later := induction (world.step next) fun step member =>
        calm step (List.mem_cons_of_mem next member)
      have resumed := alike_run_calls now ((world.step next).calls rest)
      rw [calls, List.map_append, run_append]
      exact later.trans resumed

theorem alike_start (leftShared rightShared : SharedGenerator) :
    Alike (start leftShared) (start rightShared) :=
  ⟨fun _ => ⟨rfl, fun _ => Iff.rfl⟩, fun _ => rfl⟩

theorem alike_of_same_calls_per_node (leftShared rightShared : SharedGenerator)
    {left right : List Step}
    (leftCalm : ∀ step ∈ left, ¬step.Disturbs) (rightCalm : ∀ step ∈ right, ¬step.Disturbs)
    (same : ∀ entity,
      (((start leftShared).calls left).filter fun call => call.subject = entity) =
        ((start rightShared).calls right).filter fun call => call.subject = entity) :
    Alike ((start leftShared).run left) ((start rightShared).run right) := by
  have interleaved := foldl_of_same_actions_per_key alike_equivalence alike_call calls_commute
    ((start leftShared).calls left) ((start rightShared).calls right) same (start leftShared)
  rw [← run_calls, ← run_calls] at interleaved
  have started :=
    alike_run_calls (alike_start leftShared rightShared) ((start rightShared).calls right)
  exact (((start leftShared).alike_calls leftCalm).trans (interleaved.trans started)).trans
    ((start rightShared).alike_calls rightCalm).symm

/-- Two runs from an empty network without reclaiming or resetting, with the same calls about each
node in the same order, end with the same owners, the same listings as sets, the same stale pairs
and the same counts. Calls are the same if they run under the same policy, whether it is their own
or the configured one. -/
theorem interleaving_independence (leftShared rightShared : SharedGenerator)
    (left right : List Step)
    (leftCalm : ∀ step ∈ left, ¬step.Disturbs) (rightCalm : ∀ step ∈ right, ¬step.Disturbs)
    (same : ∀ entity,
      (((start leftShared).calls left).filter fun call => call.subject = entity) =
        ((start rightShared).calls right).filter fun call => call.subject = entity) :
    let one := (start leftShared).run left
    let other := (start rightShared).run right
    (∀ device, one.association.owner device = other.association.owner device) ∧
    (∀ station device,
      device ∈ one.association.members station ↔ device ∈ other.association.members station) ∧
    (∀ station device,
      one.association.Stale station device ↔ other.association.Stale station device) ∧
    ∀ entity, one.pulse.heartbeats entity = other.pulse.heartbeats entity := by
  intro one other
  have alike : Alike one other :=
    alike_of_same_calls_per_node leftShared rightShared leftCalm rightCalm same
  refine ⟨fun device => (alike.standing device).owner,
    fun station device => (alike.standing device).listed station, ?_, alike.counts⟩
  intro station device
  unfold Association.Stale
  rw [(alike.standing device).owner, (alike.standing device).listed station]

def firstTerminalFirst : List Step :=
  [.attach ⟨"left"⟩ ⟨"one"⟩ none, .beat (.terminal ⟨"one"⟩) true 1,
    .attach ⟨"right"⟩ ⟨"other"⟩ none, .members ⟨"left"⟩,
    .attach ⟨"left"⟩ ⟨"other"⟩ (some .detach), .beat (.terminal ⟨"other"⟩) false 2]

def secondTerminalFirst : List Step :=
  [.attach ⟨"right"⟩ ⟨"other"⟩ (some .retain), .attach ⟨"left"⟩ ⟨"other"⟩ (some .detach),
    .beat (.terminal ⟨"other"⟩) false 1, .attach ⟨"left"⟩ ⟨"one"⟩ none,
    .beat (.terminal ⟨"other"⟩) false 1, .beat (.terminal ⟨"one"⟩) true 1]

theorem two_terminals_interleaved :
    let one := (start (.unseeded fun _ => 0)).run firstTerminalFirst
    let other := (start (.unseeded fun _ => 1)).run secondTerminalFirst
    (∀ device, one.association.owner device = other.association.owner device) ∧
      (∀ entity, one.pulse.heartbeats entity = other.pulse.heartbeats entity) ∧
      one.association.members ⟨"left"⟩ ≠ other.association.members ⟨"left"⟩ := by
  have left : (start (.unseeded fun _ => 0)).calls firstTerminalFirst =
      [.attach ⟨"left"⟩ ⟨"one"⟩ .retain, .beat (.terminal ⟨"one"⟩) true,
        .attach ⟨"right"⟩ ⟨"other"⟩ .retain, .attach ⟨"left"⟩ ⟨"other"⟩ .detach,
        .beat (.terminal ⟨"other"⟩) false, .beat (.terminal ⟨"other"⟩) false] := by
    decide
  have right : (start (.unseeded fun _ => 1)).calls secondTerminalFirst =
      [.attach ⟨"right"⟩ ⟨"other"⟩ .retain, .attach ⟨"left"⟩ ⟨"other"⟩ .detach,
        .beat (.terminal ⟨"other"⟩) false, .attach ⟨"left"⟩ ⟨"one"⟩ .retain,
        .beat (.terminal ⟨"other"⟩) false, .beat (.terminal ⟨"one"⟩) true] := by
    decide
  have independent := interleaving_independence (.unseeded fun _ => 0) (.unseeded fun _ => 1)
    firstTerminalFirst secondTerminalFirst (by simp [firstTerminalFirst, Step.Disturbs])
    (by simp [secondTerminalFirst, Step.Disturbs]) (by
      intro entity
      rw [left, right]
      by_cases one : Entity.terminal ⟨"one"⟩ = entity
      · subst one
        decide
      · by_cases other : Entity.terminal ⟨"other"⟩ = entity
        · subst other
          decide
        · simp [Call.subject, one, other])
  exact ⟨independent.1, independent.2.2.2, by decide⟩

end World

end AccessNetwork
