import AccessNetwork.Association

/-!
Heartbeat counts. Every node counts its own beats, and a point also counts the beats of the
terminals it owns at the moment of the beat; nothing stands above a point. A record is opened at
zero when it is first asked for; taking the counts with a reset starts it again from zero.
-/

namespace AccessNetwork

set_option autoImplicit false

structure Counter where
  success : Nat
  failure : Nat
  deriving DecidableEq, Repr

namespace Counter

def zero : Counter := ⟨0, 0⟩

def bump (counter : Counter) (success : Bool) : Counter :=
  if success then { counter with success := counter.success + 1 }
  else { counter with failure := counter.failure + 1 }

def count (counter : Counter) (success : Bool) : Nat :=
  if success then counter.success else counter.failure

theorem count_bump (counter : Counter) (beat outcome : Bool) :
    (counter.bump beat).count outcome =
      counter.count outcome + if beat = outcome then 1 else 0 := by
  cases beat <;> cases outcome <;> rfl

end Counter

structure Heartbeats where
  own : Counter
  children : Counter
  deriving DecidableEq, Repr

def Heartbeats.zero : Heartbeats := ⟨.zero, .zero⟩

/-- The node right above another: the owner of a terminal. -/
def Association.above (association : Association) : Entity → Option Entity
  | .terminal device => (association.owner device).map .point
  | _ => none

abbrev Pulse := Table Entity Heartbeats

namespace Pulse

def heartbeats (pulse : Pulse) (entity : Entity) : Heartbeats := (pulse.get? entity).getD .zero

def bumpOwn (pulse : Pulse) (entity : Entity) (success : Bool) : Pulse :=
  let before := pulse.heartbeats entity
  pulse.set entity { before with own := before.own.bump success }

def bumpChildren (pulse : Pulse) (entity : Entity) (success : Bool) : Pulse :=
  let before := pulse.heartbeats entity
  pulse.set entity { before with children := before.children.bump success }

def record (pulse : Pulse) (association : Association) (entity : Entity) (success : Bool) : Pulse :=
  let beaten := pulse.bumpOwn entity success
  match association.above entity with
  | some above => beaten.bumpChildren above success
  | none => beaten

def recordTimes (association : Association) (entity : Entity) (success : Bool) :
    Nat → Pulse → Pulse
  | 0, pulse => pulse
  | times + 1, pulse => recordTimes association entity success times
      (pulse.record association entity success)

def openRecord (pulse : Pulse) (entity : Entity) : Pulse :=
  match pulse.get? entity with
  | some _ => pulse
  | none => pulse.set entity .zero

theorem heartbeats_open_record (pulse : Pulse) (opened entity : Entity) :
    (pulse.openRecord opened).heartbeats entity = pulse.heartbeats entity := by
  simp only [openRecord]
  split
  · rfl
  · rename_i unopened
    by_cases same : entity = opened
    · simp [heartbeats, same, unopened]
    · simp [heartbeats, Table.get_set, same]

def reset (pulse : Pulse) (entity : Entity) : Pulse := pulse.set entity .zero

end Pulse

end AccessNetwork
