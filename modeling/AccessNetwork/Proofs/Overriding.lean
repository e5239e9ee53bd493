import AccessNetwork.Proofs.Grammar
import AccessNetwork.Proofs.Layers
import AccessNetwork.Proofs.SwitchGrammar
import AccessNetwork.Run

/-!
Overrides of a configuration, said of unchecked values without a word on how they are read. A field
may be left alone, or set to something that fits it: a policy to its word, the switch to a truth
value or to any text. Overrides that fit are taken field by field. If one does not fit none is
taken, and the refusal names the fields at fault. Overrides that can be waited on are no record,
whatever else they hold, and are refused as such.
-/

namespace AccessNetwork

open AccessNetwork.Schema

set_option autoImplicit false

/-- Functions under both names make a record something that can be waited on. -/
def Value.Awaitable (value : Value) : Prop :=
  value.entry "then" = .function ∧ value.entry "catch" = .function

theorem Value.not_awaitable_of_no_then {value : Value} (unset : value.entry "then" = .absent) :
    ¬value.Awaitable := by
  intro awaitable
  rw [Awaitable, unset] at awaitable
  cases awaitable.1

namespace Config

def FitsPolicy (item : Value) : Prop := item = .absent ∨ ∃ policy : Policy, item = .text policy.word

def FitsSwitch (item : Value) : Prop :=
  item = .absent ∨ (∃ truth, item = .boolean truth) ∨ ∃ text, item = .text text

/-- What an item that fits makes of a policy. -/
def SetsPolicy (before : Policy) (item : Value) (after : Policy) : Prop :=
  item = .absent ∧ after = before ∨ item = .text after.word

def SetsSwitch (before : Bool) (item : Value) (after : Bool) : Prop :=
  item = .absent ∧ after = before ∨ item = .boolean after ∨
    ∃ text, item = .text text ∧ (after = true ↔ Text.SaysOn text)

theorem fits_policy_iff (before : Policy) (item : Value) :
    FitsPolicy item ↔ ∃ after, SetsPolicy before item after := by
  constructor
  · intro fits
    rcases fits with absent | ⟨policy, given⟩
    · exact ⟨before, .inl ⟨absent, rfl⟩⟩
    · exact ⟨policy, .inr given⟩
  · intro sets
    obtain ⟨after, ⟨absent, _⟩ | given⟩ := sets
    · exact .inl absent
    · exact .inr ⟨after, given⟩

theorem fits_switch_iff (before : Bool) (item : Value) :
    FitsSwitch item ↔ ∃ after, SetsSwitch before item after := by
  constructor
  · intro fits
    rcases fits with absent | ⟨truth, given⟩ | ⟨text, given⟩
    · exact ⟨before, .inl ⟨absent, rfl⟩⟩
    · exact ⟨truth, .inr (.inl given)⟩
    · exact ⟨Text.isOn text, .inr (.inr ⟨text, given, Text.is_on_iff text⟩)⟩
  · intro sets
    obtain ⟨after, ⟨absent, _⟩ | given | ⟨text, given, _⟩⟩ := sets
    · exact .inl absent
    · exact .inr (.inl ⟨after, given⟩)
    · exact .inr (.inr ⟨text, given⟩)

theorem validate_policy_over (before after : Policy) (item : Value) :
    validatePolicy (if item.isAbsent then .text before.word else item) = .ok after ↔
      SetsPolicy before item after := by
  by_cases absent : item = .absent
  · subst absent
    simp [SetsPolicy, Value.isAbsent, validate_policy_word, eq_comm]
  · have given : ¬item.isAbsent = true := fun same => absent ((Value.is_absent_iff item).1 same)
    rw [if_neg given, SetsPolicy]
    simp only [absent, false_and, false_or]
    constructor
    · intro accepted
      have named := named_of_validate (by simpa using given) accepted
      cases item with
      | text word =>
          rw [(Policy.of_word_eq_some_iff word after).1 named]
      | _ => simp [Policy.named?] at named
    · intro same
      rw [same, validate_policy_word]

theorem validate_debug_over (before after : Bool) (item : Value) :
    validateDebug (if item.isAbsent then .boolean before else item) = .ok after ↔
      SetsSwitch before item after := by
  cases item with
  | text text =>
      simp only [SetsSwitch, Value.isAbsent, validateDebug, validateSwitch, reduceCtorEq, if_false,
        false_and, false_or, Except.ok.injEq, Value.text.injEq, exists_eq_left']
      exact Text.is_on_eq_iff text after
  | _ => simp [SetsSwitch, Value.isAbsent, validateDebug, validateSwitch, eq_comm]

theorem lookup_overridden_other {key : String} (config : Config) (overrides : Value)
    (other : Value.lookup key config.entries = .absent) :
    Value.lookup key (config.entries ++ overriding overrides) = overrides.entry key := by
  rw [lookup_overridden, other]
  split
  · rename_i absent
    exact ((Value.is_absent_iff _).1 absent).symm
  · rfl

theorem overridden_is_record_iff (config : Config) (overrides : Value) :
    (Value.record (config.entries ++ overriding overrides)).kind = .record ↔
      ¬overrides.Awaitable := by
  have first : Value.lookup "then" config.entries = .absent := rfl
  have second : Value.lookup "catch" config.entries = .absent := rfl
  rw [Value.kind_eq_record_iff, Value.IsRecord, Value.Awaitable]
  simp only [Value.record.injEq, exists_eq_left',
    lookup_overridden_other config overrides first, lookup_overridden_other config overrides second]

theorem override_of_record (config : Config) {overrides : Value} (record : ¬overrides.Awaitable) :
    config.override overrides =
      match
        validatePolicy (if (overrides.entry policyField).isAbsent then .text config.policy.word
          else overrides.entry policyField),
        validateDebug (if (overrides.entry debugField).isAbsent then .boolean config.debug
          else overrides.entry debugField) with
      | .ok policy, .ok debug => .ok ⟨policy, debug⟩
      | policy, debug => .error ⟨fieldIssues policyField (defectsOf policy) ++
          fieldIssues debugField (defectsOf debug)⟩ := by
  rw [override, parse_of_record ((overridden_is_record_iff config overrides).2 record),
    Value.entry, Value.entry, lookup_overridden, lookup_overridden]
  rfl

/-- Overrides that can be waited on are refused as what they are, whatever the configuration. -/
theorem override_refused_of_awaitable (config : Config) {overrides : Value}
    (awaitable : overrides.Awaitable) :
    config.override overrides = .error ⟨[⟨none, .wrongKind .record .promise⟩]⟩ := by
  have other := mt (overridden_is_record_iff config overrides).1 (not_not_intro awaitable)
  rw [override, parse_of_not_record other]
  rw [Value.kind] at other ⊢
  split
  · rfl
  · rename_i unlike
    rw [if_neg unlike] at other
    contradiction

theorem override_of_awaitable (config : Config) {overrides : Value}
    (awaitable : overrides.Awaitable) :
    ∃ error, config.override overrides = .error error ∧ error.fields = [] :=
  ⟨_, config.override_refused_of_awaitable awaitable, rfl⟩

/-- Overrides are accepted if both fields fit, and then each field is what its item makes of it. -/
theorem override_eq_ok_iff (config result : Config) (overrides : Value) :
    config.override overrides = .ok result ↔
      ¬overrides.Awaitable ∧
        SetsPolicy config.policy (overrides.entry policyField) result.policy ∧
        SetsSwitch config.debug (overrides.entry debugField) result.debug := by
  by_cases awaitable : overrides.Awaitable
  · obtain ⟨error, refused, _⟩ := config.override_of_awaitable awaitable
    simp [refused, awaitable]
  · rw [config.override_of_record awaitable, ← validate_policy_over, ← validate_debug_over]
    rcases result with ⟨policy, debug⟩
    generalize validatePolicy _ = policyVerdict
    generalize validateDebug _ = debugVerdict
    cases policyVerdict <;> cases debugVerdict <;> simp [awaitable]

theorem override_accepts_iff (config : Config) (overrides : Value) :
    (∃ result, config.override overrides = .ok result) ↔
      ¬overrides.Awaitable ∧ FitsPolicy (overrides.entry policyField) ∧
        FitsSwitch (overrides.entry debugField) := by
  simp only [override_eq_ok_iff, exists_and_left, fits_policy_iff config.policy,
    fits_switch_iff config.debug]
  constructor
  · intro accepted
    obtain ⟨record, result, policy, debug⟩ := accepted
    exact ⟨record, ⟨_, policy⟩, ⟨_, debug⟩⟩
  · intro fitting
    obtain ⟨record, ⟨policy, policySet⟩, ⟨debug, debugSet⟩⟩ := fitting
    exact ⟨record, ⟨policy, debug⟩, policySet, debugSet⟩

theorem override_nothing (config : Config) : config.override (.record []) = .ok config := by
  have record : ¬(Value.record []).Awaitable := Value.not_awaitable_of_no_then rfl
  exact (config.override_eq_ok_iff config _).2 ⟨record, .inl ⟨rfl, rfl⟩, .inl ⟨rfl, rfl⟩⟩

theorem is_ok_iff {Item : Type} (verdict : Except Defect Item) :
    verdict.isOk = true ↔ ∃ item, verdict = .ok item := by
  cases verdict <;> simp [Except.isOk, Except.toBool]

theorem policy_is_ok_iff (before : Policy) (item : Value) :
    (validatePolicy (if item.isAbsent then .text before.word else item)).isOk = true ↔
      FitsPolicy item := by
  simp only [is_ok_iff, validate_policy_over, fits_policy_iff before]

theorem switch_is_ok_iff (before : Bool) (item : Value) :
    (validateDebug (if item.isAbsent then .boolean before else item)).isOk = true ↔
      FitsSwitch item := by
  simp only [is_ok_iff, validate_debug_over, fits_switch_iff before]

instance : DecidablePred FitsPolicy := fun item =>
  decidable_of_iff _ (policy_is_ok_iff .retain item)

instance : DecidablePred FitsSwitch := fun item =>
  decidable_of_iff _ (switch_is_ok_iff false item)

/-- The fields that overrides hold something unfit for, in the order of the configuration. -/
def unfitFields (overrides : Value) : List String :=
  (if FitsPolicy (overrides.entry policyField) then [] else [policyField]) ++
    (if FitsSwitch (overrides.entry debugField) then [] else [debugField])

theorem field_messages_of_verdict {Item : Type} (field : String) (verdict : Except Defect Item) :
    fieldMessages (fieldIssues field (defectsOf verdict)) =
      if verdict.isOk then [] else [(field, (defectsOf verdict).map Defect.message)] := by
  rw [field_messages_of_field]
  cases verdict <;> rfl

theorem field_messages_of_verdicts {First Second : Type} (first : Except Defect First)
    (second : Except Defect Second) :
    fieldMessages (fieldIssues policyField (defectsOf first) ++
        fieldIssues debugField (defectsOf second)) =
      (if first.isOk then [] else [(policyField, (defectsOf first).map Defect.message)]) ++
        (if second.isOk then [] else [(debugField, (defectsOf second).map Defect.message)]) := by
  have apart : ∀ field ∈ namedFields (fieldIssues policyField (defectsOf first)),
      field ∉ namedFields (fieldIssues debugField (defectsOf second)) := by
    intro field named again
    have same := (eq_of_mem_named_fields named).symm.trans (eq_of_mem_named_fields again)
    exact absurd same (by decide)
  rw [field_messages_append apart, field_messages_of_verdict, field_messages_of_verdict]

/-- A refusal of overrides that are a record names the fields at fault, each with one message. -/
theorem fields_of_refused {config : Config} {overrides : Value} {error : ConfigError}
    (record : ¬overrides.Awaitable) (refused : config.override overrides = .error error) :
    error.fields.map (·.1) = unfitFields overrides ∧
      ∀ field ∈ error.fields, field.2.length = 1 := by
  have policyFits := policy_is_ok_iff config.policy (overrides.entry policyField)
  have switchFits := switch_is_ok_iff config.debug (overrides.entry debugField)
  rw [config.override_of_record record] at refused
  generalize validatePolicy _ = policyVerdict at policyFits refused
  generalize validateDebug _ = debugVerdict at switchFits refused
  have grouped : error.fields =
      fieldMessages (fieldIssues policyField (defectsOf policyVerdict) ++
        fieldIssues debugField (defectsOf debugVerdict)) := by
    cases policyVerdict <;> cases debugVerdict <;> cases refused <;> rfl
  rw [grouped, field_messages_of_verdicts]
  simp only [unfitFields, ← policyFits, ← switchFits]
  cases policyVerdict <;> cases debugVerdict <;> simp [Except.isOk, Except.toBool, defectsOf]

end Config

namespace World

/-- Missing overrides leave no mark: nothing is read, written or changed. -/
theorem missing_overrides_fail (world : World) {overrides : Value}
    (missing : overrides.isMissing = true) :
    world.answer (.configure overrides) = .failed .overrides ∧
      world.step (.configure overrides) = world ∧ world.log (.configure overrides) = [] := by
  refine ⟨?_, ?_, ?_⟩
  · rw [answer, if_pos missing]
  · rw [World.step, configure, if_pos missing]
  · rw [log, configureLog, if_pos missing]

section Given

variable (world : World) {overrides : Value} (given : overrides.isMissing = false)

include given

theorem step_configure :
    world.step (.configure overrides) =
      { world with settings := world.settings.configured overrides } := by
  rw [World.step, configure, if_neg (Bool.eq_false_iff.1 given)]

theorem answer_configure :
    world.answer (.configure overrides) = .ofConfig (world.config.override overrides) := by
  rw [answer, if_neg (Bool.eq_false_iff.1 given)]
  rfl

theorem answer_eq_config_iff (config : Config) :
    world.answer (.configure overrides) = .config config ↔
      world.config.override overrides = .ok config := by
  rw [answer_configure _ given]
  cases world.config.override overrides <;> simp [Answer.ofConfig]

theorem configure_of_accepted {result : Config}
    (accepted : world.config.override overrides = .ok result) :
    world.step (.configure overrides) =
      { world with settings := { world.settings with active := some result } } := by
  rw [step_configure _ given, Settings.configured, Settings.configure]
  rw [show world.settings.current.override overrides = .ok result from accepted]

theorem configure_of_refused {error : ConfigError}
    (refused : world.config.override overrides = .error error) :
    world.step (.configure overrides) =
      { world with settings := { world.settings with active := some world.config } } := by
  rw [step_configure _ given, Settings.configured, Settings.configure]
  rw [show world.settings.current.override overrides = .error error from refused]
  rfl

theorem configure_activates :
    ∃ config, (world.step (.configure overrides)).settings.active = some config := by
  cases verdict : world.config.override overrides with
  | ok result =>
      exact ⟨result, congrArg (·.settings.active) (configure_of_accepted _ given verdict)⟩
  | error error =>
      exact ⟨world.config, congrArg (·.settings.active) (configure_of_refused _ given verdict)⟩

end Given

theorem configure_nothing {world : World} {config : Config}
    (active : world.settings.active = some config) :
    world.answer (.configure (.record [])) = .config config ∧
      world.step (.configure (.record [])) = world := by
  have current : world.config = config := Settings.current_of_active active
  have accepted : world.config.override (.record []) = .ok config := by
    rw [current, Config.override_nothing]
  refine ⟨?_, ?_⟩
  · rw [answer_configure _ rfl, accepted]
    rfl
  · rw [configure_of_accepted _ rfl accepted, ← active]

/-- Whatever the state of the settings, overrides that can be enumerated are accepted exactly if
they are a record and both fields fit; then the configuration of that moment becomes active with
each field as its item makes it. Otherwise the configuration of that moment becomes active as it is,
and the refusal names the fields at fault in order, each with one message, or none if the overrides
are no record. Either way a further call without overrides changes nothing. -/
theorem overrides_taken_whole_or_refused (world : World) (overrides : Value)
    (given : overrides ≠ .absent) (enumerable : overrides ≠ .null) :
    let before := world.config
    let next := world.step (.configure overrides)
    world.settings.reading = .ok before ∧
    ((∃ after, world.answer (.configure overrides) = .config after) ↔
      ¬overrides.Awaitable ∧ Config.FitsPolicy (overrides.entry Config.policyField) ∧
        Config.FitsSwitch (overrides.entry Config.debugField)) ∧
    (∀ after, world.answer (.configure overrides) = .config after →
      Config.SetsPolicy before.policy (overrides.entry Config.policyField) after.policy ∧
      Config.SetsSwitch before.debug (overrides.entry Config.debugField) after.debug ∧
      after.entries.map (·.1) = [Config.policyField, Config.debugField] ∧
      next.settings.active = some after) ∧
    ((∀ after, world.answer (.configure overrides) ≠ .config after) →
      ∃ error, world.answer (.configure overrides) = .refused error ∧
        next.settings.active = some before ∧
        (overrides.Awaitable → error.fields = []) ∧
        (¬overrides.Awaitable →
          error.fields.map (·.1) = Config.unfitFields overrides ∧
          (∀ field ∈ error.fields, field.2.length = 1) ∧
          error.message = "Invalid topology configuration: " ++
            String.intercalate ", " (Config.unfitFields overrides))) ∧
    next.answer (.configure (.record [])) = .config next.config ∧
    next.step (.configure (.record [])) = next := by
  intro before next
  have present : overrides.isMissing = false := by
    rw [Bool.eq_false_iff, Ne, Value.is_missing_iff]
    exact not_or.2 ⟨given, enumerable⟩
  have accepted := world.answer_eq_config_iff present
  refine ⟨world.settings.reading_eq, ?_, ?_, ?_, ?_⟩
  · simp only [accepted]
    exact before.override_accepts_iff overrides
  · intro after answered
    have taken := (accepted after).1 answered
    obtain ⟨_, policy, debug⟩ := (before.override_eq_ok_iff after overrides).1 taken
    refine ⟨policy, debug, rfl, ?_⟩
    exact congrArg (·.settings.active) (configure_of_accepted _ present taken)
  · intro unaccepted
    cases verdict : world.config.override overrides with
    | ok after => exact absurd ((accepted after).2 verdict) (unaccepted after)
    | error error =>
        refine ⟨error, ?_, ?_, ?_, ?_⟩
        · rw [answer_configure _ present, verdict]
          rfl
        · exact congrArg (·.settings.active) (configure_of_refused _ present verdict)
        · intro awaitable
          obtain ⟨other, refused, unnamed⟩ := before.override_of_awaitable awaitable
          rw [Except.error.inj (verdict.symm.trans refused), unnamed]
        · intro record
          obtain ⟨named, once⟩ := Config.fields_of_refused record verdict
          exact ⟨named, once, by rw [← named]; rfl⟩
  · obtain ⟨config, active⟩ := world.configure_activates present
    have current : next.config = config := Settings.current_of_active active
    rw [current]
    exact configure_nothing active

/-- A policy that fits, next to a switch that does not, in an environment that is refused. -/
theorem half_fit_overrides_leave_no_trace :
    let world := (start (.unseeded fun _ => 0)).run
      [.environment [("NETSIM_DEBUG", some "1"), ("NETSIM_REPARENT_POLICY", some "bogus")]]
    let overrides := Value.record
      [("reparentPolicy", .text "detach"), ("debug", .number (.ofInt 5))]
    overrides ≠ .absent ∧ overrides ≠ .null ∧
      ∃ error, world.answer (.configure overrides) = .refused error ∧
        error.fields.map (·.1) = ["debug"] ∧
        (world.step (.configure overrides)).settings.active = some ⟨.retain, true⟩ := by
  intro world overrides
  have given : overrides ≠ .absent := by simp [overrides]
  have enumerable : overrides ≠ .null := by simp [overrides]
  obtain ⟨_, accepts, _, refuses, _⟩ :=
    world.overrides_taken_whole_or_refused overrides given enumerable
  have unfit : ¬Config.FitsSwitch (overrides.entry Config.debugField) := by decide
  have record : ¬overrides.Awaitable := Value.not_awaitable_of_no_then rfl
  obtain ⟨error, refused, active, _, named⟩ :=
    refuses fun after answered => unfit (accepts.1 ⟨after, answered⟩).2.2
  have before : world.config = ⟨.retain, true⟩ := by decide
  have fields : Config.unfitFields overrides = ["debug"] := by decide
  refine ⟨given, enumerable, error, refused, ?_, ?_⟩
  · rw [(named record).1, fields]
  · rw [active, before]

/-- Overrides that can be waited on hold nothing unfit for a field, and are refused all the same. -/
theorem awaitable_overrides_refused :
    let overrides := Value.record [("then", .function), ("catch", .function)]
    overrides ≠ .absent ∧ overrides ≠ .null ∧
      Config.FitsPolicy (overrides.entry Config.policyField) ∧
      Config.FitsSwitch (overrides.entry Config.debugField) ∧
      (start (.unseeded fun _ => 0)).answer (.configure overrides) =
        .refused ⟨[⟨none, .wrongKind .record .promise⟩]⟩ := by
  intro overrides
  exact ⟨by simp [overrides], by simp [overrides], .inl rfl, .inl rfl, rfl⟩

end World

end AccessNetwork
