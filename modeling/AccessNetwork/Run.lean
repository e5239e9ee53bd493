import AccessNetwork.World

/-!
Runs: the steps that act on a network or ask about it, what each answers and writes for diagnosis,
and the network that it leaves behind. Questions leave traces that no other step could see: a
listing or a record of counts is opened, and a dangling reference, which reads as no owner either
way, is forgotten.
-/

namespace AccessNetwork

open AccessNetwork.Identity

set_option autoImplicit false

inductive Step where
  | create (entity : Entity) (requested : Written)
  | assign (entity : Entity) (identifier : Written)
  | describe (entity : Entity)
  | attach (station : Point) (device : Terminal) (policy : Option Policy)
  | release (station : Point) (device : Terminal)
  | reclaim (station : Point)
  | members (station : Point)
  | owner (device : Terminal)
  | associated (station : Point) (device : Terminal)
  | validate (entities : List Entity)
  | consistent (entities : List Entity)
  | beat (entity : Entity) (success : Bool) (times : Nat)
  | heartbeats (entity : Entity) (reset : Bool)
  | environment (changes : List (String × Option String))
  | readConfig
  | configFrom (bindings : Value)
  | configure (overrides : Value)
  | resetSettings
  | reseed (seed : Option Number)
  | drawIds (count : Nat)

inductive Answer where
  | done
  | identified (identifier : Written) (label : String)
  | description (entity : Entity) (label : String) (above : Option Entity)
  | members (listed : List (Terminal × String))
  | owner (station : Option Point)
  | truth (value : Bool)
  | report (report : Report) (messages : List String)
  | heartbeats (counts : Heartbeats)
  | config (config : Config)
  | refused (error : ConfigError)
  | failed (missing : MissingValue)
  | identifiers (drawn : List Nat)

def Answer.ofConfig : Except ConfigError Config → Answer
  | .ok accepted => .config accepted
  | .error error => .refused error

namespace World

def step (world : World) : Step → World
  | .create entity requested => world.create entity requested
  | .assign entity identifier => world.assign entity identifier
  | .describe entity => world.asked entity.terminal?.toList
  | .attach station device policy => world.attach station device policy
  | .release station device => world.release station device
  | .reclaim station => world.reclaim station
  | .members station => world.opened [station]
  | .owner device => world.asked [device]
  | .associated station device =>
      let opened := world.opened [station]
      if device ∈ world.association.members station then opened.asked [device] else opened
  | .validate entities => world.inspected entities
  | .consistent entities => world.inspected entities
  | .beat entity success times =>
      if times = 0 then world
      else (world.beat entity success times).asked entity.terminal?.toList
  | .heartbeats entity reset =>
      if reset then world.resetHeartbeats entity else world.openHeartbeats entity
  | .environment changes => world.changeEnvironment changes
  | .readConfig => world.loaded
  | .configFrom _ => world
  | .configure overrides => world.configure overrides
  | .resetSettings => world.resetSettings
  | .reseed seed => world.reseed seed
  | .drawIds count => { world with shared := (world.shared.drawIds count).2 }

def answer (world : World) : Step → Answer
  | .create entity requested =>
      let next := world.create entity requested
      .identified (next.identifier entity) (next.label entity)
  | .assign entity identifier =>
      .identified identifier ((world.assign entity identifier).label entity)
  | .describe entity =>
      .description entity (world.label entity) (world.association.above entity)
  | .members station =>
      .members ((world.association.members station).map fun device =>
        (device, world.label (.terminal device)))
  | .owner device => .owner (world.association.owner device)
  | .associated station device => .truth (world.association.joined station device)
  | .validate entities =>
      let report := world.association.validate entities
      .report report (report.issues.map world.issueMessage)
  | .consistent entities => .truth (world.association.validate entities).consistent
  | .heartbeats entity _ => .heartbeats (world.pulse.heartbeats entity)
  | .readConfig => .config world.config
  | .configFrom .absent => .ofConfig world.settings.environment.load
  | .configFrom .null => .failed .bindings
  | .configFrom bindings => .ofConfig (Config.load bindings)
  | .configure overrides =>
      if overrides.isMissing then .failed .overrides
      else .ofConfig (world.settings.configure overrides)
  | .drawIds count => .identifiers (world.shared.drawIds count).1
  | _ => .done

def log (world : World) : Step → List Diagnostic
  | .attach station device policy => world.attachLog station device policy
  | .release station device => world.releaseLog station device
  | .readConfig => world.readingLog
  | .configure overrides => world.configureLog overrides
  | _ => []

def run (world : World) (steps : List Step) : World := steps.foldl step world

def outcomes (world : World) : List Step → List (Answer × List Diagnostic)
  | [] => []
  | next :: rest => (world.answer next, world.log next) :: (world.step next).outcomes rest

end World

end AccessNetwork
