import AccessNetwork.Proofs.Epochs

/-!
An environment that is refused. Only its policy variable can be at fault, since every text is a
switch. A reading then delivers what the same environment without the policy variable would have
given, though it comes there by another way: it reads the debug variable on its own, with a default
of its own. So a reading always delivers a configuration, and a call that needs one goes through.
-/

namespace AccessNetwork

set_option autoImplicit false

namespace Environment

def withoutPolicy (environment : Environment) : Environment :=
  environment.erase Config.policyVariable

theorem debug_eq_of_get_eq {environment other : Environment}
    (same : other.get? Config.debugVariable = environment.get? Config.debugVariable) :
    other.debug = environment.debug := by
  rw [debug, debug, same]

theorem debug_without_policy (environment : Environment) :
    environment.withoutPolicy.debug = environment.debug := by
  apply debug_eq_of_get_eq
  rw [withoutPolicy, Table.get_erase, if_neg (by decide)]

theorem load_of_no_policy {environment : Environment}
    (unset : environment.get? Config.policyVariable = none) :
    environment.load = .ok ⟨.retain, environment.debug⟩ := by
  have accepted : environment.refused? = none := by rw [refused?, unset, Option.filter_none]
  rw [load_eq, accepted, base, unset]
  rfl

theorem load_fails_iff (environment : Environment) :
    (∃ error, environment.load = .error error) ↔
      ∃ word, environment.get? Config.policyVariable = some word ∧ word ≠ "" ∧
        word ≠ "retain" ∧ word ≠ "detach" := by
  have words : ∀ word : String, word ∉ Policy.words ↔ word ≠ "retain" ∧ word ≠ "detach" := by
    intro word
    simp [Policy.words, Policy.word]
  simp only [← words, ← refused_eq_some_iff, load_eq]
  cases environment.refused? <;> simp

theorem reading_of_refused {environment : Environment} {error : ConfigError}
    (refused : environment.load = .error error) :
    ∃ config, environment.withoutPolicy.load = .ok config ∧
      (Settings.ofEnvironment environment).reading = .ok config := by
  refine ⟨⟨.retain, environment.debug⟩, ?_, ?_⟩
  · rw [load_of_no_policy (by rw [withoutPolicy, Table.get_erase_self]), debug_without_policy]
  · rw [Settings.reading]
    simp only [Settings.ofEnvironment, refused]
    exact environment.fallback_eq

theorem reading_of_accepted {environment : Environment} {config : Config}
    (accepted : environment.load = .ok config) :
    (Settings.ofEnvironment environment).reading = .ok config := by
  simp only [Settings.reading, Settings.ofEnvironment, accepted]

end Environment

namespace World

theorem active_attach (world : World) (station : Point) (device : Terminal)
    (perCall : Option Policy) :
    (world.step (.attach station device perCall)).settings.active = some world.config := by
  rw [active_step world _ rfl]
  rfl

theorem active_release (world : World) (station : Point) (device : Terminal) :
    (world.step (.release station device)).settings.active =
      if world.reads (.release station device) then some world.config
      else world.settings.active := by
  rw [active_step world _ rfl]
  rfl

/-- For every environment: loading it fails exactly if its policy variable holds a text that is
neither empty nor a policy. A first reading delivers what loading gives; if that fails, it delivers
what loading gives without the policy variable, and in any case a switch that depends on the debug
variable alone. In every world with this environment a reading delivers the configuration of that
world, and a call that attaches or releases and reads the configuration goes on with it. -/
theorem readings_survive_refused_environments (environment : Environment) :
    ((∃ error, environment.load = .error error) ↔
      ∃ word, environment.get? Config.policyVariable = some word ∧ word ≠ "" ∧
        word ≠ "retain" ∧ word ≠ "detach") ∧
    (∀ config, environment.load = .ok config →
      (Settings.ofEnvironment environment).reading = .ok config) ∧
    (∀ error, environment.load = .error error →
      ∃ config, environment.withoutPolicy.load = .ok config ∧
        (Settings.ofEnvironment environment).reading = .ok config) ∧
    (∀ other : Environment,
      other.get? Config.debugVariable = environment.get? Config.debugVariable →
        (Settings.ofEnvironment other).reading.map Config.debug =
          (Settings.ofEnvironment environment).reading.map Config.debug) ∧
    (∀ world : World, world.settings.environment = environment → ∀ station device,
      world.settings.reading = .ok world.config ∧
      (∀ perCall, (world.step (.attach station device perCall)).settings.active =
        some world.config) ∧
      (world.step (.release station device)).settings.active =
        if world.reads (.release station device) then some world.config
        else world.settings.active) := by
  refine ⟨environment.load_fails_iff, fun config => Environment.reading_of_accepted,
    fun error => Environment.reading_of_refused, ?_, ?_⟩
  · intro other same
    have alike : other.base.debug = environment.base.debug := Environment.debug_eq_of_get_eq same
    rw [Settings.reading_of_unread rfl, Settings.reading_of_unread rfl]
    exact congrArg Except.ok alike
  · intro world _ station device
    exact ⟨world.settings.reading_eq, world.active_attach station device,
      world.active_release station device⟩

end World

end AccessNetwork
