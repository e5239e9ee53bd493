import AccessNetwork.Config.Settings
import AccessNetwork.Diagnostic
import AccessNetwork.Heartbeat
import AccessNetwork.Identity.Shared
import AccessNetwork.Validation

/-!
A network as a whole: its nodes with their identifiers, the association of points and terminals,
the heartbeat counts, the settings and the generator that identifiers are drawn from. Each operation
on the parts is lifted here; the two that change the association read the configuration and write
diagnostics.
-/

namespace AccessNetwork

open AccessNetwork.Identity

set_option autoImplicit false

structure World where
  entities : List Entity
  identifiers : Table Entity Written
  association : Association
  pulse : Pulse
  settings : Settings
  shared : SharedGenerator

namespace World

def start (shared : SharedGenerator) : World :=
  ⟨[], .empty, .empty, .empty, .ofEnvironment .empty, shared⟩

def identifier (world : World) (entity : Entity) : Written :=
  (world.identifiers.get? entity).getD .absent

def label (world : World) (entity : Entity) : String :=
  labelText entity.kindLabel (world.identifier entity)

theorem label_point (world : World) (station : Point) :
    world.label (.point station) =
      "AP(" ++ (world.identifier (.point station)).spelling ++ ")" := by
  rw [label, labelText, Entity.kindLabel, show "AP" ++ "(" = "AP(" from rfl]

theorem label_terminal (world : World) (device : Terminal) :
    world.label (.terminal device) =
      "RT(" ++ (world.identifier (.terminal device)).spelling ++ ")" := by
  rw [label, labelText, Entity.kindLabel, show "RT" ++ "(" = "RT(" from rfl]

def assign (world : World) (entity : Entity) (identifier : Written) : World :=
  { world with identifiers := world.identifiers.set entity identifier }

def create (world : World) (entity : Entity) (requested : Written) : World :=
  let named :=
    if asksForDrawn requested then
      let drawn := world.shared.drawId
      { world.assign entity (.number (.ofInt drawn.1)) with shared := drawn.2 }
    else world.assign entity requested
  { named with entities := world.entities ++ [entity] }

def readingLog (world : World) : List Diagnostic :=
  (world.settings.ignored.map Diagnostic.ignoredEnvironment).toList

def loaded (world : World) : World := { world with settings := world.settings.loaded }

def config (world : World) : Config := world.settings.current

def effectivePolicy (world : World) (perCall : Option Policy) : Policy :=
  perCall.getD world.config.policy

def attach (world : World) (station : Point) (device : Terminal) (perCall : Option Policy) :
    World :=
  { world.loaded with
    association := world.association.attach (world.effectivePolicy perCall) station device }

def attachLog (world : World) (station : Point) (device : Terminal) (perCall : Option Policy) :
    List Diagnostic :=
  world.readingLog ++
    match world.effectivePolicy perCall, world.association.foreignOwner station device with
    | .retain, some previous =>
        if world.config.debug then
          [.stillListed (world.label (.terminal device)) (world.label (.point station))
            (world.label (.point previous))]
        else []
    | _, _ => []

/-- The configuration is read only if the terminal belongs to another point. -/
def release (world : World) (station : Point) (device : Terminal) : World :=
  let read := if (world.association.foreignOwner station device).isSome then world.loaded else world
  { read with association := world.association.release station device }

def releaseLog (world : World) (station : Point) (device : Terminal) : List Diagnostic :=
  match world.association.foreignOwner station device with
  | some previous =>
      world.readingLog ++
        if world.config.debug then
          [.clearedOwner (world.label (.point previous)) (world.label (.terminal device))
            (world.label (.point station))]
        else []
  | none => []

def reclaim (world : World) (station : Point) : World :=
  { world with association := world.association.reclaim station }

/-- The world after the owners of these terminals were asked for. -/
def asked (world : World) (devices : List Terminal) : World :=
  { world with association := world.association.forgetAll devices }

/-- The world after the listings of these points were asked for. -/
def opened (world : World) (stations : List Point) : World :=
  { world with association := world.association.openListings stations }

def beat (world : World) (entity : Entity) (success : Bool) (times : Nat) : World :=
  { world with pulse := .recordTimes world.association entity success times world.pulse }

def inspected (world : World) (entities : List Entity) : World :=
  (world.opened (world.association.inspectedPoints entities)).asked
    (world.association.askedTerminals entities)

def openHeartbeats (world : World) (entity : Entity) : World :=
  { world with pulse := world.pulse.openRecord entity }

def resetHeartbeats (world : World) (entity : Entity) : World :=
  { world with pulse := world.pulse.reset entity }

def changeEnvironment (world : World) (changes : List (String × Option String)) : World :=
  { world with
    settings :=
      { world.settings with
        environment := changes.foldl
          (fun environment change => Environment.change environment change.1 change.2)
          world.settings.environment } }

/-- Missing overrides are noticed before the configuration is read. -/
def configure (world : World) (overrides : Value) : World :=
  { world with
    settings :=
      if overrides.isMissing then world.settings else world.settings.configured overrides }

def configureLog (world : World) (overrides : Value) : List Diagnostic :=
  if overrides.isMissing then [] else world.readingLog

def resetSettings (world : World) : World := { world with settings := world.settings.reset }

def reseed (world : World) (seed : Option Number) : World :=
  { world with shared := world.shared.reset seed }

def points (world : World) : List Point := world.entities.filterMap Entity.point?

def terminals (world : World) : List Terminal := world.entities.filterMap Entity.terminal?

def issueMessage (world : World) (issue : StaleListing) : String :=
  world.label (.point issue.station) ++ " lists " ++ world.label (.terminal issue.device) ++
    match issue.owner with
    | some owner => ", which is owned by " ++ world.label (.point owner)
    | none => ", which has no owner"

end World

end AccessNetwork
