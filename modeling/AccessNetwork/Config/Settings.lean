import AccessNetwork.Config.Basic
import AccessNetwork.Table

/-!
The active configuration and the environment it comes from. Nothing is active until a first reading
loads it from the environment; from then on the environment plays no part until a reset. If the
environment is refused, the standard policy is used with the debug variable read on its own. That
this second reading could fail as well is ruled out by `reading_succeeds`, so a configuration is
always delivered. Overrides are taken as a whole or not at all.
-/

namespace AccessNetwork

open AccessNetwork.Schema

set_option autoImplicit false

abbrev Environment := Table String String

namespace Environment

def value (environment : Environment) (name : String) : Value :=
  ((environment.get? name).map Value.text).getD .absent

def bindings (environment : Environment) : Value :=
  .record [(Config.policyVariable, environment.value Config.policyVariable),
    (Config.debugVariable, environment.value Config.debugVariable)]

/-- Names and texts in an environment end before their first null character. -/
def terminated (text : String) : String :=
  String.ofList (text.toList.takeWhile fun char => char.toNat != 0)

def change (environment : Environment) (name : String) : Option String → Environment
  | some text => environment.set (terminated name) (terminated text)
  | none => environment.erase (terminated name)

def load (environment : Environment) : Except ConfigError Config :=
  Config.load environment.bindings

def debug (environment : Environment) : Bool :=
  ((environment.get? Config.debugVariable).map Text.isOn).getD false

/-- The debug variable read on its own: if it is unset or empty, "off" is read in its place. -/
def switch (environment : Environment) : Except Defect Bool :=
  let value := environment.value Config.debugVariable
  Config.validateSwitch (if value.isUnset then .boolean false else value)

/-- What is used in place of a configuration that is refused. -/
def fallback (environment : Environment) : Except Defect Config :=
  environment.switch.map fun debug => { Config.standard with debug := debug }

theorem switch_eq (environment : Environment) : environment.switch = .ok environment.debug := by
  rw [switch, debug, value]
  cases environment.get? Config.debugVariable with
  | none => rfl
  | some text =>
      by_cases empty : text = ""
      · rw [empty]
        exact congrArg Except.ok Text.is_on_empty.symm
      · simp [Value.isUnset, empty, Config.validateSwitch]

theorem fallback_eq (environment : Environment) :
    environment.fallback = .ok { Config.standard with debug := environment.debug } := by
  rw [fallback, switch_eq]
  rfl

end Environment

structure Settings where
  environment : Environment
  active : Option Config

namespace Settings

def ofEnvironment (environment : Environment) : Settings := ⟨environment, none⟩

/-- What a reading comes to now. A refused environment is made up for; a defect in what makes up
for it would be passed on. -/
def reading (settings : Settings) : Except Defect Config :=
  match settings.active with
  | some config => .ok config
  | none =>
      match settings.environment.load with
      | .ok config => .ok config
      | .error _ => settings.environment.fallback

theorem reading_succeeds (settings : Settings) : settings.reading.toOption.isSome = true := by
  simp only [reading]
  split
  · rfl
  · split
    · rfl
    · rw [settings.environment.fallback_eq]
      rfl

def current (settings : Settings) : Config :=
  settings.reading.toOption.get settings.reading_succeeds

theorem reading_eq (settings : Settings) : settings.reading = .ok settings.current := by
  have delivered : settings.reading.toOption = some settings.current :=
    (Option.some_get settings.reading_succeeds).symm
  cases found : settings.reading with
  | ok config =>
      rw [found] at delivered
      exact congrArg Except.ok (Option.some.inj delivered)
  | error defect =>
      rw [found] at delivered
      contradiction

/-- The refusal that a reading now would pass over, if diagnostics are to be written. -/
def ignored (settings : Settings) : Option ConfigError :=
  match settings.active with
  | some _ => none
  | none =>
      match settings.environment.load with
      | .ok _ => none
      | .error error => if settings.current.debug then some error else none

def loaded (settings : Settings) : Settings := { settings with active := some settings.current }

def configure (settings : Settings) (overrides : Value) : Except ConfigError Config :=
  settings.current.override overrides

/-- The settings after an attempt to configure; a refused one leaves what a reading leaves. -/
def configured (settings : Settings) (overrides : Value) : Settings :=
  match settings.configure overrides with
  | .ok config => { settings with active := some config }
  | .error _ => settings.loaded

def reset (settings : Settings) : Settings := { settings with active := none }

end Settings

end AccessNetwork
