import AccessNetwork.Proofs.Fallback
import AccessNetwork.Proofs.Overriding

/-!
What a text comes to as a switch, wherever it is held. As the debug variable, loaded or read, and as
an override it means on if it follows the grammar of switches and off if it does not, and it is
never at fault.
-/

namespace AccessNetwork

set_option autoImplicit false

theorem Environment.debug_of_set {environment : Environment} {text : String}
    (set : environment.get? Config.debugVariable = some text) :
    environment.debug = Text.isOn text := by
  rw [debug, set, Option.map_some, Option.getD_some]

theorem Environment.fields_of_refused {environment : Environment} {error : ConfigError}
    (refused : environment.load = .error error) :
    error.fields.map (·.1) = [Config.policyField] := by
  rw [load_eq] at refused
  cases found : environment.refused? with
  | none => simp [found] at refused
  | some word =>
      simp only [found, Except.error.injEq] at refused
      rw [← refused]
      rfl

namespace Config

theorem debug_of_text_override {config result : Config} {overrides : Value} {text : String}
    (given : overrides.entry debugField = .text text)
    (accepted : config.override overrides = .ok result) : result.debug = Text.isOn text := by
  obtain ⟨_, _, sets⟩ := (config.override_eq_ok_iff result overrides).1 accepted
  rw [given] at sets
  rcases sets with ⟨absent, _⟩ | truth | ⟨other, same, meaning⟩
  · cases absent
  · cases truth
  · rw [Value.text.inj same, ← (Text.is_on_eq_iff other result.debug).2 meaning]

theorem text_override_not_at_fault {config : Config} {overrides : Value} {error : ConfigError}
    {text : String} (given : overrides.entry debugField = .text text)
    (refused : config.override overrides = .error error) :
    debugField ∉ error.fields.map (·.1) := by
  by_cases awaitable : overrides.Awaitable
  · obtain ⟨other, again, unnamed⟩ := config.override_of_awaitable awaitable
    rw [Except.error.inj (refused.symm.trans again), unnamed]
    exact List.not_mem_nil
  · have fits : FitsSwitch (overrides.entry debugField) := .inr (.inr ⟨text, given⟩)
    rw [(fields_of_refused awaitable refused).1, unfitFields, if_pos fits, List.append_nil]
    split <;> decide

/-- Every text means on or off, and on exactly if it follows the grammar. That is what the debug
switch comes to if the debug variable holds the text, read or loaded, and if an override holds it;
a refusal never names the switch, and what is nothing but this text is accepted. Blanks around the
text and the case of its ASCII letters do not matter, nor does the form that a capital sigma takes
in lower case; and no character beyond ASCII has a letter of the words in its lower case. -/
theorem switch_texts_follow_grammar (text : String) :
    ∃ on : Bool, (on = true ↔ Text.SaysOn text) ∧
      (∀ environment : Environment, environment.get? debugVariable = some text →
        (∃ config, (Settings.ofEnvironment environment).reading = .ok config ∧
          config.debug = on) ∧
        (∀ config, environment.load = .ok config → config.debug = on) ∧
        (∀ error, environment.load = .error error → debugField ∉ error.fields.map (·.1))) ∧
      (∀ (config : Config) (overrides : Value), overrides.entry debugField = .text text →
        (∀ result, config.override overrides = .ok result → result.debug = on) ∧
        (∀ error, config.override overrides = .error error →
          debugField ∉ error.fields.map (·.1))) ∧
      Environment.load (Table.empty.set debugVariable text) = .ok ⟨.retain, on⟩ ∧
      (∀ config : Config,
        config.override (.record [(debugField, .text text)]) = .ok ⟨config.policy, on⟩) ∧
      (∀ (other : String) (before after : List Char),
        other.toList = before ++ text.toList ++ after → (∀ char ∈ before, Text.IsBlank char) →
          (∀ char ∈ after, Text.IsBlank char) → (Text.SaysOn other ↔ on = true)) ∧
      (∀ other : String, other.toList.map Char.toLower = text.toList.map Char.toLower →
        (Text.SaysOn other ↔ on = true)) ∧
      (∀ lowered, Text.InLowerCase (Text.strip text.toList) lowered →
        (String.ofList lowered ∈ Text.switchWords ↔ on = true)) ∧
      (∀ char : Char, 0x80 ≤ char.toNat → ∀ form ∈ Text.lowerForms char,
        ∀ word ∈ Text.switchWords, ∀ letter ∈ word.toList, letter ∉ form) := by
  -- What the text means is kept closed: no reading of a text takes part in the comparisons below.
  obtain ⟨on, meaning⟩ : ∃ on, on = Text.isOn text := ⟨_, rfl⟩
  have means : on = true ↔ Text.SaysOn text := by rw [meaning, Text.is_on_iff]
  refine ⟨on, means, ?_, ?_, ?_, ?_, ?_, ?_, ?_, ?_⟩
  · intro environment set
    have base : environment.base.debug = on := (Environment.debug_of_set set).trans meaning.symm
    refine ⟨⟨_, Settings.reading_of_unread rfl, base⟩, ?_, ?_⟩
    · intro config accepted
      have read := Environment.reading_of_accepted accepted
      rw [Settings.reading_of_unread rfl] at read
      rw [← Except.ok.inj read]
      exact base
    · intro error refused
      rw [Environment.fields_of_refused refused]
      decide
  · intro config overrides given
    refine ⟨?_, fun error => text_override_not_at_fault given⟩
    intro result accepted
    rw [debug_of_text_override given accepted, meaning]
  · have set : (Table.empty.set debugVariable text).get? debugVariable = some text :=
      Table.get_set_self _ _ _
    have unset : (Table.empty.set debugVariable text).get? policyVariable = none := by
      rw [Table.get_set, if_neg (by decide), Table.get_empty]
    rw [Environment.load_of_no_policy unset, Environment.debug_of_set set, meaning]
  · intro config
    have record : ¬(Value.record [(debugField, .text text)]).Awaitable :=
      Value.not_awaitable_of_no_then rfl
    have given : (Value.record [(debugField, .text text)]).entry debugField = .text text := rfl
    have sets : SetsSwitch config.debug _ on := .inr (.inr ⟨text, given, means⟩)
    exact (config.override_eq_ok_iff _ _).2 ⟨record, .inl ⟨rfl, rfl⟩, sets⟩
  · intro other before after around blankBefore blankAfter
    rw [← Text.is_on_iff, Text.is_on_of_blanks_around around blankBefore blankAfter, meaning]
  · intro other same
    rw [← Text.is_on_iff, Text.is_on_of_same_letters same, meaning]
  · intro lowered lowers
    rw [Text.lowered_is_word_iff lowers, meaning, Text.is_on_iff_spells]
  · intro char beyond form among word member letter listed
    exact Text.plain_not_mem_lower_form beyond among
      (Text.letters_of_switch_words word member letter listed)

end Config

end AccessNetwork
