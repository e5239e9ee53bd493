import AccessNetwork.Proofs.Overriding
import Mathlib.Data.List.Forall2

/-!
Identifiers, the seeds that they are drawn from and the switch for diagnostics show, and steer
nothing. Two runs that differ in these alone go through networks with the same listings, owners,
counts and policy, and their steps answer the same but for identifiers, labels, messages and the
switch itself. What is kept from step to step is that the two networks and the two policies agree,
and with them the two environments wherever the switch is not read.
-/

namespace AccessNetwork

open AccessNetwork.Identity AccessNetwork.Schema

set_option autoImplicit false

/-- The same value twice, or two records that hold the same under every key but one, and something
allowed under that one. -/
inductive Value.AlikeBut (key : String) (Allowed : Value → Prop) : Value → Value → Prop where
  | same (value : Value) : AlikeBut key Allowed value value
  | records (first second : List (String × Value))
      (elsewhere : ∀ other, other ≠ key → lookup other first = lookup other second)
      (firstAllowed : Allowed (lookup key first)) (secondAllowed : Allowed (lookup key second)) :
      AlikeBut key Allowed (.record first) (.record second)

namespace Value

variable {key : String} {Allowed : Value → Prop} {first second : Value}

theorem entry_elsewhere (alike : AlikeBut key Allowed first second) {other : String}
    (apart : other ≠ key) : first.entry other = second.entry other := by
  cases alike with
  | same value => rfl
  | records first second elsewhere _ _ => exact elsewhere other apart

theorem entry_there (alike : AlikeBut key Allowed first second) :
    first.entry key = second.entry key ∨
      Allowed (first.entry key) ∧ Allowed (second.entry key) := by
  cases alike with
  | same value => exact .inl rfl
  | records first second _ firstAllowed secondAllowed => exact .inr ⟨firstAllowed, secondAllowed⟩

theorem is_missing_congr (alike : AlikeBut key Allowed first second) :
    first.isMissing = second.isMissing := by
  cases alike <;> rfl

end Value

namespace Config

def settle : Except Defect Policy → Except Defect Bool → Except ConfigError Config
  | .ok policy, .ok debug => .ok ⟨policy, debug⟩
  | policy, debug => .error ⟨fieldIssues policyField (defectsOf policy) ++
      fieldIssues debugField (defectsOf debug)⟩

/-- What the switch is set to has no part in the policy. Only what is at fault with it counts. -/
theorem settle_policy_congr (policy : Except Defect Policy) {first second : Except Defect Bool}
    (same : defectsOf first = defectsOf second) :
    (settle policy first).map Config.policy = (settle policy second).map Config.policy := by
  cases first <;> cases second <;> simp [defectsOf] at same
  · rw [same]
  · cases policy <;> rfl

theorem parse_eq_settle {value : Value} (record : value.kind = .record) :
    parse value =
      settle (validatePolicy (value.entry policyField))
        (validateDebug (value.entry debugField)) := by
  rw [parse_of_record record]
  cases validatePolicy (value.entry policyField) <;>
    cases validateDebug (value.entry debugField) <;> rfl

theorem override_eq_settle (config : Config) {overrides : Value} (record : ¬overrides.Awaitable) :
    config.override overrides =
      settle
        (validatePolicy (if (overrides.entry policyField).isAbsent then .text config.policy.word
          else overrides.entry policyField))
        (validateDebug (if (overrides.entry debugField).isAbsent then .boolean config.debug
          else overrides.entry debugField)) := by
  rw [config.override_of_record record]
  generalize validatePolicy _ = policyVerdict
  generalize validateDebug _ = debugVerdict
  cases policyVerdict <;> cases debugVerdict <;> rfl

theorem load_eq_settle (bindings : Value) :
    load bindings = settle (validatePolicy (setting bindings policyVariable))
      (validateDebug (setting bindings debugVariable)) := by
  rw [load, parse_eq_settle rfl, Value.entry, Value.entry, lookup_policy_field,
    lookup_debug_field]

theorem defects_of_fitting {item : Value} (fits : FitsSwitch item) :
    defectsOf (validateDebug item) = [] := by
  rcases fits with rfl | ⟨truth, rfl⟩ | ⟨text, rfl⟩ <;> rfl

theorem fits_switch_over (before : Bool) {item : Value} (fits : FitsSwitch item) :
    FitsSwitch (if item.isAbsent then .boolean before else item) := by
  split
  · exact .inr (.inl ⟨before, rfl⟩)
  · exact fits

theorem fits_switch_setting {bindings : Value} {name : String}
    (fits : FitsSwitch (bindings.entry name)) : FitsSwitch (setting bindings name) := by
  rw [setting]
  split
  · exact .inl rfl
  · exact fits

theorem debug_defects_congr (firstBefore secondBefore : Bool) {first second : Value}
    (alike : first = second ∨ FitsSwitch first ∧ FitsSwitch second) :
    defectsOf (validateDebug (if first.isAbsent then .boolean firstBefore else first)) =
      defectsOf (validateDebug (if second.isAbsent then .boolean secondBefore else second)) := by
  rcases alike with rfl | ⟨firstFits, secondFits⟩
  · split <;> rfl
  · rw [defects_of_fitting (fits_switch_over firstBefore firstFits),
      defects_of_fitting (fits_switch_over secondBefore secondFits)]

theorem override_policy_congr {first second : Config} (policy : first.policy = second.policy)
    {left right : Value} (alike : Value.AlikeBut debugField FitsSwitch left right) :
    (first.override left).map Config.policy = (second.override right).map Config.policy := by
  have awaitable : left.Awaitable ↔ right.Awaitable := by
    rw [Value.Awaitable, Value.Awaitable, Value.entry_elsewhere alike (by decide),
      Value.entry_elsewhere alike (by decide)]
  by_cases waits : left.Awaitable
  · rw [first.override_refused_of_awaitable waits,
      second.override_refused_of_awaitable (awaitable.1 waits)]
  · rw [first.override_eq_settle waits, second.override_eq_settle (mt awaitable.2 waits), policy,
      Value.entry_elsewhere alike (by decide)]
    exact settle_policy_congr _ (debug_defects_congr _ _ (Value.entry_there alike))

theorem load_policy_congr {left right : Value}
    (alike : Value.AlikeBut debugVariable FitsSwitch left right) :
    (load left).map Config.policy = (load right).map Config.policy := by
  have policies : setting left policyVariable = setting right policyVariable := by
    rw [setting, setting, Value.entry_elsewhere alike (by decide)]
  rw [load_eq_settle, load_eq_settle, policies]
  apply settle_policy_congr
  rcases Value.entry_there alike with same | ⟨leftFits, rightFits⟩
  · rw [setting, setting, same]
  · rw [defects_of_fitting (fits_switch_setting leftFits),
      defects_of_fitting (fits_switch_setting rightFits)]

end Config

namespace Environment

def AlikeButDebug (left right : Environment) : Prop :=
  ∀ name, name ≠ Config.debugVariable → left.get? name = right.get? name

def changed (environment : Environment) (changes : List (String × Option String)) : Environment :=
  changes.foldl (fun environment change => environment.change change.1 change.2) environment

def otherChanges (changes : List (String × Option String)) : List (String × Option String) :=
  changes.filter fun change => terminated change.1 != Config.debugVariable

theorem get_change (environment : Environment) (changed name : String) (text : Option String) :
    (environment.change changed text).get? name =
      if name = terminated changed then text.map terminated else environment.get? name := by
  cases text with
  | none => exact environment.get_erase _ _
  | some text => exact environment.get_set _ _ _

theorem alike_change {left right : Environment} (alike : left.AlikeButDebug right)
    (changed : String) (text : Option String) :
    (left.change changed text).AlikeButDebug (right.change changed text) := by
  intro name apart
  rw [get_change, get_change, alike name apart]

theorem alike_change_debug {left right : Environment} (alike : left.AlikeButDebug right)
    {changed : String} (debugging : terminated changed = Config.debugVariable)
    (text : Option String) : (left.change changed text).AlikeButDebug right := by
  intro name apart
  rw [get_change, debugging, if_neg apart, alike name apart]

theorem alike_changed_others {left right : Environment} (alike : left.AlikeButDebug right)
    (changes : List (String × Option String)) :
    (left.changed changes).AlikeButDebug (right.changed (otherChanges changes)) := by
  induction changes generalizing left right with
  | nil => exact alike
  | cons change rest induction =>
      by_cases debugging : terminated change.1 = Config.debugVariable
      · have dropped : otherChanges (change :: rest) = otherChanges rest := by
          simp [otherChanges, debugging]
        rw [dropped]
        exact induction (alike_change_debug alike debugging change.2)
      · have kept : otherChanges (change :: rest) = change :: otherChanges rest := by
          simp [otherChanges, debugging]
        rw [kept]
        exact induction (alike_change alike change.1 change.2)

theorem alike_changed {left right : Environment} (alike : left.AlikeButDebug right)
    {first second : List (String × Option String)}
    (same : otherChanges first = otherChanges second) :
    (left.changed first).AlikeButDebug (right.changed second) := by
  intro name apart
  -- Both come to what the changes that they share would have made of the second environment.
  have unchanged : right.AlikeButDebug right := fun _ _ => rfl
  rw [alike_changed_others alike first name apart, same,
    ← alike_changed_others unchanged second name apart]

section Alike

variable {left right : Environment} (alike : left.AlikeButDebug right)

include alike

theorem policy_variable_of_alike :
    left.get? Config.policyVariable = right.get? Config.policyVariable :=
  alike Config.policyVariable (by decide)

theorem base_policy_of_alike : left.base.policy = right.base.policy := by
  rw [base, base, policy_variable_of_alike alike]

theorem load_policy_of_alike :
    left.load.map Config.policy = right.load.map Config.policy := by
  have refused : left.refused? = right.refused? := by
    rw [refused?, refused?, policy_variable_of_alike alike]
  rw [load_eq, load_eq, refused]
  cases right.refused? with
  | none => exact congrArg Except.ok (base_policy_of_alike alike)
  | some word => rfl

end Alike

end Environment

namespace Settings

structure AlikeButDebug (left right : Settings) : Prop where
  environment : left.environment.AlikeButDebug right.environment
  active : left.active.map Config.policy = right.active.map Config.policy

section Alike

variable {left right : Settings} (alike : left.AlikeButDebug right)

include alike

theorem policy_of_alike : left.current.policy = right.current.policy := by
  have active := alike.active
  cases first : left.active with
  | none =>
      rw [first, Option.map_none, eq_comm, Option.map_eq_none_iff] at active
      rw [current_of_unread first, current_of_unread active,
        Environment.base_policy_of_alike alike.environment]
  | some config =>
      rw [first, Option.map_some, eq_comm, Option.map_eq_some_iff] at active
      obtain ⟨other, second, same⟩ := active
      rw [current_of_active first, current_of_active second, same]

theorem alike_loaded : left.loaded.AlikeButDebug right.loaded :=
  ⟨alike.environment, congrArg some (policy_of_alike alike)⟩

theorem alike_reset : left.reset.AlikeButDebug right.reset := ⟨alike.environment, rfl⟩

theorem configure_policy_of_alike {first second : Value}
    (overrides : Value.AlikeBut Config.debugField Config.FitsSwitch first second) :
    (left.configure first).map Config.policy = (right.configure second).map Config.policy :=
  Config.override_policy_congr (policy_of_alike alike) overrides

theorem alike_configured {first second : Value}
    (overrides : Value.AlikeBut Config.debugField Config.FitsSwitch first second) :
    (left.configured first).AlikeButDebug (right.configured second) := by
  have same := configure_policy_of_alike alike overrides
  rw [configured, configured]
  cases firstVerdict : left.configure first <;> cases secondVerdict : right.configure second <;>
    rw [firstVerdict, secondVerdict] at same
  · exact alike_loaded alike
  · contradiction
  · contradiction
  · exact ⟨alike.environment, congrArg some (Except.ok.inj same)⟩

end Alike

end Settings

/-- The same step, but for the identifier that it gives, the seed that it sets, or the truth value
or text that it gives for the debug switch. -/
inductive Step.Varies : Step → Step → Prop where
  | same (step : Step) : Varies step step
  | create (entity : Entity) (first second : Written) :
      Varies (.create entity first) (.create entity second)
  | assign (entity : Entity) (first second : Written) :
      Varies (.assign entity first) (.assign entity second)
  | reseed (first second : Option Number) : Varies (.reseed first) (.reseed second)
  | environment {first second : List (String × Option String)}
      (others : Environment.otherChanges first = Environment.otherChanges second) :
      Varies (.environment first) (.environment second)
  | configFrom {first second : Value}
      (alike : first.AlikeBut Config.debugVariable Config.FitsSwitch second) :
      Varies (.configFrom first) (.configFrom second)
  | configure {first second : Value}
      (alike : first.AlikeBut Config.debugField Config.FitsSwitch second) :
      Varies (.configure first) (.configure second)

/-- An answer without identifiers, labels, messages and the debug switch. -/
def Answer.bare : Answer → Answer
  | .identified _ _ => .identified .absent ""
  | .description entity _ above => .description entity "" above
  | .members listed => .members (listed.map fun member => (member.1, ""))
  | .report found messages => .report found (messages.map fun _ => "")
  | .config settled => .config { settled with debug := false }
  | .identifiers drawn => .identifiers (drawn.map fun _ => 0)
  | .done => .done
  | .owner station => .owner station
  | .truth value => .truth value
  | .heartbeats counts => .heartbeats counts
  | .refused error => .refused error
  | .failed missing => .failed missing

theorem Answer.bare_of_config {first second : Except ConfigError Config}
    (same : first.map Config.policy = second.map Config.policy) :
    (Answer.ofConfig first).bare = (Answer.ofConfig second).bare := by
  cases first <;> cases second <;> simp [Except.map] at same
  · rw [same]
  · simp [ofConfig, bare, same]

theorem Identity.SharedGenerator.length_draw_ids (count : Nat) (shared : SharedGenerator) :
    (shared.drawIds count).1.length = count := by
  induction count generalizing shared with
  | zero => rfl
  | succ count induction => rw [drawIds, List.length_cons, induction]

namespace World

structure SameNetwork (left right : World) : Prop where
  entities : left.entities = right.entities
  association : left.association = right.association
  pulse : left.pulse = right.pulse
  settings : left.settings.AlikeButDebug right.settings

theorem SameNetwork.start (first second : SharedGenerator) :
    SameNetwork (start first) (start second) :=
  ⟨rfl, rfl, rfl, fun _ _ => rfl, rfl⟩

section Congruence

variable {left right : World} (same : SameNetwork left right)

include same

theorem same_network_assign (entity : Entity) (first second : Written) :
    SameNetwork (left.assign entity first) (right.assign entity second) :=
  ⟨same.entities, same.association, same.pulse, same.settings⟩

theorem same_network_create (entity : Entity) (first second : Written) :
    SameNetwork (left.create entity first) (right.create entity second) := by
  have entities : left.entities ++ [entity] = right.entities ++ [entity] := by
    rw [same.entities]
  rw [create, create]
  split <;> split <;> exact ⟨entities, same.association, same.pulse, same.settings⟩

theorem same_network_loaded : SameNetwork left.loaded right.loaded :=
  { same with settings := Settings.alike_loaded same.settings }

theorem policy_of_same_network : left.config.policy = right.config.policy :=
  Settings.policy_of_alike same.settings

theorem same_network_opened (stations : List Point) :
    SameNetwork (left.opened stations) (right.opened stations) :=
  { same with association := congrArg (·.openListings stations) same.association }

theorem same_network_asked (devices : List Terminal) :
    SameNetwork (left.asked devices) (right.asked devices) :=
  { same with association := congrArg (·.forgetAll devices) same.association }

theorem same_network_inspected (entities : List Entity) :
    SameNetwork (left.inspected entities) (right.inspected entities) := by
  rw [inspected, inspected, same.association]
  exact same_network_asked (same_network_opened same _) _

theorem same_network_configure {first second : Value}
    (alike : first.AlikeBut Config.debugField Config.FitsSwitch second) :
    SameNetwork (left.configure first) (right.configure second) := by
  have configured := Settings.alike_configured same.settings alike
  refine { same with settings := ?_ }
  simp only [configure, Value.is_missing_congr alike]
  split
  · exact same.settings
  · exact configured

theorem same_network_same_step (step : Step) : SameNetwork (left.step step) (right.step step) := by
  cases step with
  | create entity requested => exact same_network_create same entity requested requested
  | assign entity identifier => exact same_network_assign same entity identifier identifier
  | describe entity => exact same_network_asked same _
  | attach station device policy =>
      -- Without a policy of its own the call takes the configured one, the same in both worlds.
      have attached : left.association.attach (left.effectivePolicy policy) station device =
          right.association.attach (right.effectivePolicy policy) station device := by
        rw [effectivePolicy, effectivePolicy, policy_of_same_network same, same.association]
      exact { same_network_loaded same with association := attached }
  | release station device =>
      simp only [World.step, release, same.association]
      split
      · exact { same_network_loaded same with association := rfl }
      · exact { same with association := rfl }
  | reclaim station =>
      exact { same with association := congrArg (·.reclaim station) same.association }
  | members station => exact same_network_opened same [station]
  | owner device => exact same_network_asked same [device]
  | associated station device =>
      have opened := same_network_opened same [station]
      simp only [World.step, same.association]
      split
      · exact same_network_asked opened [device]
      · exact opened
  | validate entities => exact same_network_inspected same entities
  | consistent entities => exact same_network_inspected same entities
  | beat entity success times =>
      have beaten : SameNetwork (left.beat entity success times)
          (right.beat entity success times) := by
        have counted : Pulse.recordTimes left.association entity success times left.pulse =
            Pulse.recordTimes right.association entity success times right.pulse := by
          rw [same.association, same.pulse]
        exact { same with pulse := counted }
      simp only [World.step]
      split
      · exact same
      · exact same_network_asked beaten _
  | heartbeats entity reset =>
      simp only [World.step]
      split
      · exact { same with pulse := congrArg (·.reset entity) same.pulse }
      · exact { same with pulse := congrArg (·.openRecord entity) same.pulse }
  | environment changes =>
      have environment : (left.settings.environment.changed changes).AlikeButDebug
          (right.settings.environment.changed changes) :=
        Environment.alike_changed same.settings.environment rfl
      exact { same with settings := ⟨environment, same.settings.active⟩ }
  | readConfig => exact same_network_loaded same
  | configFrom bindings => exact same
  | configure overrides => exact same_network_configure same (.same overrides)
  | resetSettings => exact { same with settings := Settings.alike_reset same.settings }
  | reseed seed => exact ⟨same.entities, same.association, same.pulse, same.settings⟩
  | drawIds count => exact ⟨same.entities, same.association, same.pulse, same.settings⟩

theorem same_network_step {first second : Step} (varied : first.Varies second) :
    SameNetwork (left.step first) (right.step second) := by
  cases varied with
  | same => exact same_network_same_step same first
  | create entity first second => exact same_network_create same entity first second
  | assign entity first second => exact same_network_assign same entity first second
  | reseed first second => exact ⟨same.entities, same.association, same.pulse, same.settings⟩
  | environment others =>
      have environment := Environment.alike_changed same.settings.environment others
      exact { same with settings := ⟨environment, same.settings.active⟩ }
  | configFrom alike => exact same
  | configure alike => exact same_network_configure same alike

theorem bare_answer_configure {first second : Value}
    (alike : first.AlikeBut Config.debugField Config.FitsSwitch second) :
    (left.answer (.configure first)).bare = (right.answer (.configure second)).bare := by
  rw [answer, answer, Value.is_missing_congr alike]
  split
  · rfl
  · exact Answer.bare_of_config (Settings.configure_policy_of_alike same.settings alike)

theorem bare_answer_same_step (step : Step) :
    (left.answer step).bare = (right.answer step).bare := by
  cases step with
  | describe entity => simp only [answer, Answer.bare, same.association]
  | members station =>
      simp only [answer, Answer.bare, same.association, List.map_map, Function.comp_def]
  | owner device => rw [answer, answer, same.association]
  | associated station device => rw [answer, answer, same.association]
  | validate entities =>
      simp only [answer, Answer.bare, same.association, List.map_map, Function.comp_def]
  | consistent entities => rw [answer, answer, same.association]
  | heartbeats entity reset => rw [answer, answer, same.pulse]
  | readConfig => simp only [answer, Answer.bare, policy_of_same_network same]
  | configFrom bindings =>
      cases bindings with
      | absent =>
          exact Answer.bare_of_config (Environment.load_policy_of_alike same.settings.environment)
      | _ => rfl
  | configure overrides => exact bare_answer_configure same (.same overrides)
  | drawIds count =>
      simp only [answer, Answer.bare, List.map_const', SharedGenerator.length_draw_ids]
  | _ => rfl

theorem bare_answer_step {first second : Step} (varied : first.Varies second) :
    (left.answer first).bare = (right.answer second).bare := by
  cases varied with
  | same => exact bare_answer_same_step same first
  | configFrom alike =>
      cases alike with
      | same => exact bare_answer_same_step same _
      | records first second elsewhere firstFits secondFits =>
          exact Answer.bare_of_config
            (Config.load_policy_congr (.records first second elsewhere firstFits secondFits))
  | configure alike => exact bare_answer_configure same alike
  | _ => rfl

theorem same_network_run {first second : List Step}
    (varied : List.Forall₂ Step.Varies first second) :
    SameNetwork (left.run first) (right.run second) := by
  induction varied generalizing left right with
  | nil => exact same
  | cons head _ induction => exact induction (same_network_step same head)

theorem bare_outcomes_run {first second : List Step}
    (varied : List.Forall₂ Step.Varies first second) :
    (left.outcomes first).map (fun heard => heard.1.bare) =
      (right.outcomes second).map (fun heard => heard.1.bare) := by
  induction varied generalizing left right with
  | nil => rfl
  | cons head _ induction =>
      rw [outcomes, outcomes, List.map_cons, List.map_cons, bare_answer_step same head,
        induction (same_network_step same head)]

end Congruence

/-- Two runs from empty networks, step by step the same but for identifiers, seeds and the debug
switch, agree at every moment on the listings in their order, the owners, who is associated with
whom, what an inspection counts and finds, the counts of heartbeats and the policy; and what their
steps answer differs in nothing but identifiers, labels, messages and the debug switch. -/
theorem names_and_switch_steer_nothing (firstShared secondShared : SharedGenerator)
    {first second : List Step} (varied : List.Forall₂ Step.Varies first second) :
    (∀ count,
      let left := (start firstShared).run (first.take count)
      let right := (start secondShared).run (second.take count)
      left.entities = right.entities ∧
      (∀ station, left.association.members station = right.association.members station) ∧
      (∀ device, left.association.owner device = right.association.owner device) ∧
      (∀ station device,
        left.association.joined station device = right.association.joined station device) ∧
      (∀ entities, left.association.validate entities = right.association.validate entities) ∧
      (∀ entity, left.pulse.heartbeats entity = right.pulse.heartbeats entity) ∧
      left.config.policy = right.config.policy) ∧
    ((start firstShared).outcomes first).map (fun heard => heard.1.bare) =
      ((start secondShared).outcomes second).map (fun heard => heard.1.bare) := by
  have started := SameNetwork.start firstShared secondShared
  refine ⟨?_, bare_outcomes_run started varied⟩
  intro count left right
  have same : SameNetwork left right :=
    same_network_run started (List.forall₂_take count varied)
  refine ⟨same.entities, ?_, ?_, ?_, ?_, ?_, policy_of_same_network same⟩
  · intro station
    rw [same.association]
  · intro device
    rw [same.association]
  · intro station device
    rw [same.association]
  · intro entities
    rw [same.association]
  · intro entity
    rw [same.pulse]

/-- A terminal moves to another point: once between points of different names, with nothing written,
and once under one name for all three, with diagnostics switched on. Only the second run writes
something; the listing that is left behind is found in both. -/
theorem moves_alike_quiet_and_loud :
    let near : Point := ⟨"near"⟩
    let far : Point := ⟨"far"⟩
    let device : Terminal := ⟨"device"⟩
    let moves : List Step := [.attach near device none, .attach far device none]
    let quiet : List Step :=
      [.environment [], .create (.point near) (.number (.ofInt 1)),
        .create (.point far) (.number (.ofInt 2)), .create (.terminal device) .absent,
        .configure (.record [("debug", .boolean false)])] ++ moves
    let loud : List Step :=
      [.environment [("NETSIM_DEBUG", some "on")], .create (.point near) (.text "x"),
        .create (.point far) (.text "x"), .create (.terminal device) (.text "x"),
        .configure (.record [("debug", .text "YES")])] ++ moves
    let left := (start (.unseeded fun _ => 1)).run quiet
    let right := (start (.unseeded fun _ => 2)).run loud
    List.Forall₂ Step.Varies quiet loud ∧
      ((start (.unseeded fun _ => 1)).outcomes quiet).flatMap (·.2) = [] ∧
      (((start (.unseeded fun _ => 2)).outcomes loud).flatMap (·.2)).map Diagnostic.text =
        ["addMember: RT(x) moved to AP(x) but is still listed under AP(x)"] ∧
      left.association.members near = right.association.members near ∧
      left.association.validate [.point near] = right.association.validate [.point near] ∧
      (right.association.validate [.point near]).issues = [⟨near, device, some far⟩] := by
  intro near far device moves quiet loud left right
  have switched : Value.AlikeBut Config.debugField Config.FitsSwitch
      (.record [("debug", .boolean false)]) (.record [("debug", .text "YES")]) := by
    apply Value.AlikeBut.records
    · intro other apart
      have unlike : ("debug" == other) = false := beq_eq_false_iff_ne.2 (Ne.symm apart)
      simp [Value.lookup, unlike]
    · exact .inr (.inl ⟨false, rfl⟩)
    · exact .inr (.inr ⟨"YES", rfl⟩)
  have varied : List.Forall₂ Step.Varies quiet loud := by
    apply List.Forall₂.cons (.environment (by decide))
    apply List.Forall₂.cons (.create _ _ _)
    apply List.Forall₂.cons (.create _ _ _)
    apply List.Forall₂.cons (.create _ _ _)
    apply List.Forall₂.cons (.configure switched)
    exact List.forall₂_same.2 fun move _ => .same move
  obtain ⟨agree, _⟩ :=
    names_and_switch_steer_nothing (.unseeded fun _ => 1) (.unseeded fun _ => 2) varied
  obtain ⟨_, members, _, _, found, _, _⟩ := agree 7
  exact ⟨varied, by decide, by decide, members near, found [.point near], by decide⟩

end World

end AccessNetwork
