import AccessNetwork.Config.Settings

/-!
The two layers of a configuration, field by field. An environment comes to a policy and a switch,
whatever its variables hold; it is refused exactly if its policy variable holds a text that is
neither empty nor a policy. Overrides that are accepted replace the fields that they define, and no
others.
-/

namespace AccessNetwork

open AccessNetwork.Schema

set_option autoImplicit false

namespace Value

theorem lookup_append (key : String) (earlier later : List (String × Value)) :
    lookup key (earlier ++ later) =
      (((later.reverse.find? (·.1 == key)).or (earlier.reverse.find? (·.1 == key))).map
        (·.2)).getD .absent := by
  rw [lookup, List.reverse_append, List.find?_append]

theorem is_absent_iff (value : Value) : value.isAbsent = true ↔ value = .absent := by
  cases value <;> simp [isAbsent]

theorem is_missing_iff (value : Value) :
    value.isMissing = true ↔ value = .absent ∨ value = .null := by
  cases value <;> simp [isMissing]

end Value

namespace Config

open Value in
/-- Of the entries under a key that end up absent none are kept, and of all others every one. -/
theorem find_overriding (key : String) (entries : List (String × Value)) :
    (overriding (.record entries)).reverse.find? (·.1 == key) =
      if (lookup key entries).isAbsent then none else entries.reverse.find? (·.1 == key) := by
  have kept : ∀ entry : String × Value,
      decide ((!(lookup entry.1 entries).isAbsent) = true ∧ (entry.1 == key) = true) =
        ((!(lookup key entries).isAbsent) && entry.1 == key) := by
    intro entry
    by_cases same : entry.1 = key
    · simp [same]
    · have apart : (entry.1 == key) = false := beq_eq_false_iff_ne.2 same
      simp [apart]
  rw [overriding, ← List.filter_reverse, List.find?_filter]
  simp only [kept]
  cases (lookup key entries).isAbsent <;> simp

theorem lookup_overridden (key : String) (entries : List (String × Value)) (overrides : Value) :
    Value.lookup key (entries ++ overriding overrides) =
      if (overrides.entry key).isAbsent then Value.lookup key entries else overrides.entry key := by
  cases overrides with
  | record given =>
      rw [Value.lookup_append, find_overriding, Value.entry]
      by_cases absent : (Value.lookup key given).isAbsent
      · rw [if_pos absent, if_pos absent, Option.none_or]
        rfl
      · rw [if_neg absent, if_neg absent]
        cases found : given.reverse.find? (·.1 == key) with
        | none => simp [Value.lookup, found, Value.isAbsent] at absent
        | some entry => simp [Value.lookup, found]
  | _ => simp [overriding, Value.entry, Value.isAbsent]

end Config

namespace Policy

def ofWord? (word : String) : Option Policy :=
  [Policy.retain, Policy.detach].find? (·.word == word)

theorem of_word_eq_none_iff (word : String) : ofWord? word = none ↔ word ∉ words := by
  simp only [ofWord?, words, List.find?_eq_none, List.mem_cons, List.not_mem_nil, or_false,
    forall_eq_or_imp, forall_eq, beq_iff_eq, not_or, eq_comm (a := word)]

theorem of_word_eq_some_iff (word : String) (policy : Policy) :
    ofWord? word = some policy ↔ word = policy.word := by
  constructor
  · intro found
    rw [ofWord?] at found
    have same := List.find?_some found
    exact (beq_iff_eq.1 same).symm
  · rintro rfl
    cases policy <;> rfl

theorem validate_text (given : String) :
    validate (.text given) =
      match ofWord? given with
      | some policy => .ok policy
      | none => .error (.unknownChoice words given) := by
  by_cases retaining : given = Policy.retain.word
  · subst retaining
    rfl
  · by_cases detaching : given = Policy.detach.word
    · subst detaching
      rfl
    · have other : ofWord? given = none := by
        simp [ofWord?, Ne.symm retaining, Ne.symm detaching]
      simp only [validate, if_neg retaining, if_neg detaching, other]

def named? : Value → Option Policy
  | .text given => ofWord? given
  | _ => none

end Policy

namespace Config

def switch? : Value → Option Bool
  | .boolean value => some value
  | .text given => some (Text.isOn given)
  | _ => none

theorem switch_of_validate {value : Value} {debug : Bool} (given : value.isAbsent = false)
    (accepted : validateDebug value = .ok debug) : switch? value = some debug := by
  cases value <;> simp_all [validateDebug, validateSwitch, switch?, Value.isAbsent]

theorem validate_policy_word (policy : Policy) :
    validatePolicy (.text policy.word) = .ok policy := by
  cases policy <;> rfl

theorem named_of_validate {value : Value} {policy : Policy} (given : value.isAbsent = false)
    (accepted : validatePolicy value = .ok policy) : Policy.named? value = some policy := by
  cases value with
  | absent => simp [Value.isAbsent] at given
  | text word =>
      rw [validatePolicy, Policy.validate_text] at accepted
      · cases found : Policy.ofWord? word with
        | none => simp [found] at accepted
        | some named => simpa [Policy.named?, found] using accepted
      · simp
  | _ => simp [validatePolicy, Policy.validate] at accepted

/-- A configuration with the fields that the overrides define in place of its own. -/
def overlay (config : Config) (overrides : Value) : Config :=
  ⟨(Policy.named? (overrides.entry policyField)).getD config.policy,
    (switch? (overrides.entry debugField)).getD config.debug⟩

theorem parse_of_record {value : Value} (record : value.kind = .record) :
    parse value =
      match validatePolicy (value.entry policyField), validateDebug (value.entry debugField) with
      | .ok policy, .ok debug => .ok ⟨policy, debug⟩
      | policy, debug => .error ⟨(defectsOf policy).map (⟨some policyField, ·⟩) ++
          (defectsOf debug).map (⟨some debugField, ·⟩)⟩ := by
  rw [parse, validate, if_pos record, validateRecord]
  cases validatePolicy (value.entry policyField) <;>
    cases validateDebug (value.entry debugField) <;> rfl

theorem parse_of_not_record {value : Value} (other : value.kind ≠ .record) :
    parse value = .error ⟨[⟨none, .wrongKind .record value.kind⟩]⟩ := by
  have refused : validate value = .error [⟨none, .wrongKind .record value.kind⟩] := if_neg other
  rw [parse, refused]
  rfl

theorem parse_eq_ok_iff (value : Value) (config : Config) :
    parse value = .ok config ↔
      value.kind = .record ∧ validatePolicy (value.entry policyField) = .ok config.policy ∧
        validateDebug (value.entry debugField) = .ok config.debug := by
  rcases config with ⟨policy, debug⟩
  by_cases record : value.kind = .record
  · rw [parse_of_record record]
    cases validatePolicy (value.entry policyField) <;>
      cases validateDebug (value.entry debugField) <;> simp [record]
  · simp [parse_of_not_record record, record]

@[simp] theorem lookup_policy_field (policyItem debugItem : Value) :
    Value.lookup policyField [(policyField, policyItem), (debugField, debugItem)] =
      policyItem := rfl

@[simp] theorem lookup_debug_field (policyItem debugItem : Value) :
    Value.lookup debugField [(policyField, policyItem), (debugField, debugItem)] =
      debugItem := rfl

theorem parse_entries (config : Config) : parse (.record config.entries) = .ok config :=
  (parse_eq_ok_iff _ config).2 ⟨rfl, validate_policy_word config.policy, rfl⟩

/-- What is accepted in place of a field is what the overrides define there, or the field itself. -/
theorem override_eq_overlay {config result : Config} {overrides : Value}
    (accepted : config.override overrides = .ok result) : result = config.overlay overrides := by
  obtain ⟨_, policy, debug⟩ := (parse_eq_ok_iff _ result).1 accepted
  rw [Value.entry, lookup_overridden, entries] at policy debug
  have samePolicy : result.policy =
      (Policy.named? (overrides.entry policyField)).getD config.policy := by
    by_cases absent : (overrides.entry policyField).isAbsent
    · rw [if_pos absent, lookup_policy_field, validate_policy_word] at policy
      rw [(Value.is_absent_iff _).1 absent]
      exact (Except.ok.inj policy).symm
    · rw [if_neg absent] at policy
      rw [named_of_validate (by simpa using absent) policy, Option.getD_some]
  have sameDebug : result.debug =
      (switch? (overrides.entry debugField)).getD config.debug := by
    by_cases absent : (overrides.entry debugField).isAbsent
    · rw [if_pos absent, lookup_debug_field] at debug
      rw [(Value.is_absent_iff _).1 absent]
      exact (Except.ok.inj debug).symm
    · rw [if_neg absent] at debug
      rw [switch_of_validate (by simpa using absent) debug, Option.getD_some]
  rcases result with ⟨policy, debug⟩
  rw [overlay, ← samePolicy, ← sameDebug]

end Config

namespace Environment

/-- The text that the policy variable holds, if it is set to something that is no policy. -/
def refused? (environment : Environment) : Option String :=
  (environment.get? Config.policyVariable).filter fun word => !("" :: Policy.words).contains word

def refusal (word : String) : ConfigError :=
  ⟨[⟨some Config.policyField, .unknownChoice Policy.words word⟩]⟩

/-- What an environment comes to, field by field. -/
def base (environment : Environment) : Config :=
  ⟨((environment.get? Config.policyVariable).bind Policy.ofWord?).getD .retain, environment.debug⟩

theorem refused_eq_some_iff (environment : Environment) (word : String) :
    environment.refused? = some word ↔
      environment.get? Config.policyVariable = some word ∧ word ≠ "" ∧ word ∉ Policy.words := by
  simp [refused?]

theorem refused_of_set {environment : Environment} {word : String}
    (found : environment.get? Config.policyVariable = some word) :
    environment.refused? = if word = "" ∨ word ∈ Policy.words then none else some word := by
  rw [refused?, found, Option.filter_some]
  by_cases known : word = "" ∨ word ∈ Policy.words <;> simp [known]

theorem setting_of_value {environment : Environment} {name : String}
    (bound : environment.bindings.entry name = environment.value name) :
    Config.setting environment.bindings name =
      match environment.get? name with
      | some text => if text = "" then .absent else .text text
      | none => .absent := by
  rw [Config.setting, bound, value]
  cases environment.get? name with
  | none => rfl
  | some text => simp [Value.isUnset]

theorem validate_policy_setting (environment : Environment) :
    Config.validatePolicy (Config.setting environment.bindings Config.policyVariable) =
      match environment.refused? with
      | some word => .error (.unknownChoice Policy.words word)
      | none => .ok environment.base.policy := by
  rw [setting_of_value rfl, base]
  cases found : environment.get? Config.policyVariable with
  | none =>
      rw [refused?, found]
      rfl
  | some word =>
      rw [refused_of_set found]
      have known := Policy.of_word_eq_none_iff word
      by_cases empty : word = ""
      · have other : Policy.ofWord? word = none := known.2 (by rw [empty]; decide)
        simp only [empty, true_or, if_true, Option.bind_some]
        rw [← empty, other]
        rfl
      · simp only [empty, if_false, false_or, Option.bind_some]
        rw [Config.validatePolicy, Policy.validate_text _]
        · cases named : Policy.ofWord? word with
          | none => rw [if_neg (known.1 named)]
          | some policy =>
              have member : word ∈ Policy.words := by simpa [named] using known
              rw [if_pos member]
              rfl
        · simp

theorem validate_debug_setting (environment : Environment) :
    Config.validateDebug (Config.setting environment.bindings Config.debugVariable) =
      .ok environment.debug := by
  rw [setting_of_value rfl, debug]
  cases environment.get? Config.debugVariable with
  | none => rfl
  | some text =>
      by_cases empty : text = ""
      · simp only [empty, if_true, Option.map_some, Text.is_on_empty]
        rfl
      · simp only [if_neg empty, Option.map_some, Option.getD_some]
        rfl

theorem load_eq (environment : Environment) :
    environment.load =
      match environment.refused? with
      | some word => .error (refusal word)
      | none => .ok environment.base := by
  rw [load, Config.load, Config.parse_of_record rfl]
  simp only [Value.entry, Config.lookup_policy_field, Config.lookup_debug_field,
    validate_policy_setting, validate_debug_setting]
  cases environment.refused? with
  | none => rfl
  | some word => rfl

theorem fallback_of_refused {environment : Environment} {word : String}
    (refused : environment.refused? = some word) :
    environment.fallback = .ok environment.base := by
  obtain ⟨found, _, foreign⟩ := (environment.refused_eq_some_iff word).1 refused
  rw [fallback_eq, base, found, Option.bind_some, (Policy.of_word_eq_none_iff word).2 foreign]
  rfl

end Environment

namespace Settings

theorem reading_of_unread {settings : Settings} (unread : settings.active = none) :
    settings.reading = .ok settings.environment.base := by
  rw [reading, unread, Environment.load_eq]
  cases found : settings.environment.refused? with
  | none => rfl
  | some word => exact Environment.fallback_of_refused found

theorem current_of_unread {settings : Settings} (unread : settings.active = none) :
    settings.current = settings.environment.base :=
  Except.ok.inj (settings.reading_eq.symm.trans (reading_of_unread unread))

theorem current_of_active {settings : Settings} {config : Config}
    (active : settings.active = some config) : settings.current = config := by
  have delivered := settings.reading_eq
  rw [reading, active] at delivered
  exact (Except.ok.inj delivered).symm

theorem ignored_of_unread {settings : Settings} (unread : settings.active = none) :
    settings.ignored =
      if settings.environment.debug then settings.environment.refused?.map Environment.refusal
      else none := by
  rw [ignored, unread, current_of_unread unread, Environment.load_eq]
  cases settings.environment.refused? with
  | none => simp
  | some word => rfl

end Settings

end AccessNetwork
