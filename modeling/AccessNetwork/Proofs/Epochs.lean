import AccessNetwork.Proofs.Overriding
import AccessNetwork.Proofs.Stale
import Mathlib.Data.List.DropRight

/-!
The configuration from one reset to the next. The first step that reads it settles it by the
environment of that moment, and from then on only accepted overrides change it, each on top of the
ones before. That an environment is passed over is said by this first step, or by none. Missing
overrides fail before anything is read. What a text means as a switch is left to the grammar.
-/

namespace AccessNetwork

open AccessNetwork.Identity

set_option autoImplicit false

namespace Environment

def SwitchedOn (environment : Environment) : Prop :=
  ∃ text, environment.get? Config.debugVariable = some text ∧ Text.SaysOn text

theorem debug_iff_switched_on (environment : Environment) :
    environment.debug = true ↔ environment.SwitchedOn := by
  rw [debug, SwitchedOn]
  cases environment.get? Config.debugVariable with
  | none => simp
  | some text => simp [Text.is_on_iff]

theorem base_detaches_iff (environment : Environment) :
    environment.base.policy = .detach ↔
      environment.get? Config.policyVariable = some Policy.detach.word := by
  rw [base]
  cases environment.get? Config.policyVariable with
  | none => simp
  | some word =>
      rw [Option.bind_some, Option.some.injEq, ← Policy.of_word_eq_some_iff]
      cases Policy.ofWord? word <;> simp

end Environment

theorem Config.override_overlay {config result : Config} {overrides : Value}
    (accepted : config.override overrides = .ok result) (before : Config) :
    before.override overrides = .ok (before.overlay overrides) := by
  have fits := (config.override_accepts_iff overrides).1 ⟨result, accepted⟩
  obtain ⟨other, taken⟩ := (before.override_accepts_iff overrides).2 fits
  rw [taken, override_eq_overlay taken]

namespace Step

def resets : Step → Bool
  | .resetSettings => true
  | _ => false

end Step

/-- The steps of a run since the last reset, or since its start. Every epoch of a run is the current
one of the run up to there. -/
def currentEpoch (steps : List Step) : List Step := steps.rtakeWhile fun step => !step.resets

def beforeEpoch (steps : List Step) : List Step := steps.rdropWhile fun step => !step.resets

namespace World

/-- Whether a step reads the configuration: attaching always does, releasing only if the terminal
belongs to another point, and overriding only if there are overrides. -/
def reads (world : World) : Step → Bool
  | .attach _ _ _ => true
  | .release station device => (world.association.owner device).any (· != station)
  | .readConfig => true
  | .configure overrides => !overrides.isMissing
  | _ => false

def reading (world : World) (step : Step) : List Environment :=
  if world.reads step then [world.settings.environment] else []

def accepted (world : World) : Step → List Value
  | .configure overrides =>
      if overrides.isMissing then []
      else
        match world.settings.configure overrides with
        | .ok _ => [overrides]
        | .error _ => []
  | _ => []

def environmentLog (world : World) (step : Step) : List Diagnostic :=
  (world.log step).filter fun line => !line.concernsPair

theorem reads_release (world : World) (station : Point) (device : Terminal) :
    world.reads (.release station device) =
      (world.association.foreignOwner station device).isSome := by
  rw [reads, Association.foreignOwner, Option.isSome_filter]

theorem accepted_of_not_reads {world : World} {step : Step} (silent : ¬world.reads step) :
    world.accepted step = [] := by
  cases step with
  | configure overrides =>
      have missing : overrides.isMissing = true := by simpa [reads] using silent
      rw [accepted, if_pos missing]
  | _ => rfl

theorem override_of_mem_accepted (world : World) (step : Step) :
    ∀ overrides ∈ world.accepted step, ∀ before : Config,
      before.override overrides = .ok (before.overlay overrides) := by
  cases step with
  | configure given =>
      intro overrides member
      simp only [accepted] at member
      split at member
      · exact absurd member List.not_mem_nil
      · cases verdict : world.settings.configure given with
        | error refusal => simp [verdict] at member
        | ok config =>
            have same : overrides = given := by simpa [verdict] using member
            rw [same]
            exact Config.override_overlay verdict
  | _ =>
      intro overrides member
      exact absurd member List.not_mem_nil

/-- A step that reads the configuration leaves it active, with what the step overrides. -/
theorem active_step (world : World) (step : Step) (going : step.resets = false) :
    (world.step step).settings.active =
      if world.reads step then some ((world.accepted step).foldl Config.overlay world.config)
      else world.settings.active := by
  cases step with
  | create entity requested =>
      simp only [World.step, create, reads]
      split <;> rfl
  | release station device =>
      rw [reads_release]
      simp only [World.step, release, accepted]
      split <;> rfl
  | associated station device =>
      simp only [World.step, reads]
      split <;> rfl
  | beat entity success times =>
      simp only [World.step, reads]
      split <;> rfl
  | heartbeats entity reset =>
      simp only [World.step, reads]
      split <;> rfl
  | configure overrides =>
      cases missing : overrides.isMissing with
      | true =>
          obtain ⟨_, unmarked, _⟩ := world.missing_overrides_fail missing
          rw [unmarked]
          simp [reads, missing]
      | false =>
          rw [step_configure world missing, Settings.configured]
          simp only [reads, accepted, missing]
          cases verdict : world.settings.configure overrides with
          | error refusal => rfl
          | ok config =>
              have overlaid := Config.override_eq_overlay verdict
              simp [overlaid, World.config]
  | resetSettings => simp [Step.resets] at going
  | _ => rfl

theorem accepted_eq_nil_of_unread (world : World) (steps : List Step)
    (unread : world.gather reading steps = []) : world.gather accepted steps = [] := by
  induction steps using List.reverseRecOn with
  | nil => rfl
  | append_singleton steps step induction =>
      rw [gather_snoc, List.append_eq_nil_iff] at unread ⊢
      refine ⟨induction unread.1, accepted_of_not_reads ?_⟩
      intro reader
      simp [reading, reader] at unread

theorem config_eq (world : World) :
    world.config = world.settings.active.getD world.settings.environment.base := by
  cases active : world.settings.active with
  | none => exact Settings.current_of_unread active
  | some config => exact Settings.current_of_active active

theorem config_of_active {world : World} {config : Config}
    (active : world.settings.active = some config) : world.config = config := by
  rw [config_eq, active, Option.getD_some]

theorem active_run (world : World) (unread : world.settings.active = none) (steps : List Step)
    (going : ∀ step ∈ steps, step.resets = false) :
    (world.run steps).settings.active =
      (world.gather reading steps).head?.map fun environment =>
        (world.gather accepted steps).foldl Config.overlay environment.base := by
  induction steps using List.reverseRecOn with
  | nil => exact unread
  | append_singleton steps step induction =>
      have before := induction fun earlier member => going earlier (List.mem_append_left _ member)
      rw [run_snoc, active_step _ _ (going step (by simp)), gather_snoc, gather_snoc]
      cases found : world.gather reading steps with
      | nil =>
          have fresh := world.accepted_eq_nil_of_unread steps found
          have inactive : (world.run steps).settings.active = none := by rw [before, found]; rfl
          have base := Settings.current_of_unread inactive
          by_cases reader : (world.run steps).reads step
          · simp [reader, reading, fresh, World.config, base]
          · simp [reader, reading, inactive]
      | cons environment later =>
          rw [found, List.head?_cons, Option.map_some] at before
          have current := config_of_active before
          by_cases reader : (world.run steps).reads step
          · simp [reader, current, List.foldl_append]
          · have plain := accepted_of_not_reads reader
            simp [reader, before, plain]

theorem unread_iff (world : World) (unread : world.settings.active = none) (steps : List Step)
    (going : ∀ step ∈ steps, step.resets = false) :
    (world.run steps).settings.active = none ↔ world.gather reading steps = [] := by
  rw [active_run world unread steps going, Option.map_eq_none_iff, List.head?_eq_none_iff]

def environmentLines (environment : Environment) : List Diagnostic :=
  if environment.debug then
    (environment.refused?.map fun word => .ignoredEnvironment (Environment.refusal word)).toList
  else []

theorem environment_lines_length_le (environment : Environment) :
    (environmentLines environment).length ≤ 1 := by
  unfold environmentLines
  split
  · cases environment.refused? <;> simp
  · simp

theorem environment_lines_ne_nil_iff (environment : Environment) :
    environmentLines environment ≠ [] ↔
      (∃ word, environment.get? Config.policyVariable = some word ∧ word ≠ "" ∧
        word ∉ Policy.words) ∧ environment.SwitchedOn := by
  have refused := environment.refused_eq_some_iff
  rw [← Environment.debug_iff_switched_on, environmentLines]
  cases environment.debug with
  | false => simp
  | true => simp [Option.ne_none_iff_exists', refused]

theorem reading_log_eq (world : World) :
    world.readingLog =
      if world.settings.active = none then environmentLines world.settings.environment else [] := by
  cases active : world.settings.active with
  | some config => simp [readingLog, Settings.ignored, active]
  | none =>
      rw [readingLog, Settings.ignored_of_unread active, environmentLines]
      split <;> simp [Function.comp_def]

/-- The lines about pairs apart, a step writes what its reading writes, if it reads. -/
theorem environment_log_step (world : World) (step : Step) :
    world.environmentLog step = if world.reads step then world.readingLog else [] := by
  have kept : world.readingLog.filter (fun line => !line.concernsPair) = world.readingLog := by
    cases ignored : world.settings.ignored <;>
      simp [readingLog, ignored, Diagnostic.concernsPair]
  cases step with
  | attach station device policy =>
      simp only [environmentLog, log, attachLog, List.filter_append, kept, reads, if_true,
        List.append_right_eq_self]
      repeat' split
      all_goals rfl
  | release station device =>
      rw [reads_release, environmentLog, log, releaseLog]
      cases world.association.foreignOwner station device with
      | none => rfl
      | some previous =>
          simp only [List.filter_append, kept, Option.isSome_some, if_true,
            List.append_right_eq_self]
          split <;> rfl
  | readConfig => exact kept
  | configure overrides =>
      rw [reads]
      cases missing : overrides.isMissing with
      | true =>
          obtain ⟨_, _, silent⟩ := world.missing_overrides_fail missing
          rw [environmentLog, silent]
          rfl
      | false =>
          rw [environmentLog, log, configureLog, if_neg (Bool.eq_false_iff.1 missing)]
          exact kept
  | _ => rfl

theorem environment_log_run (world : World) (unread : world.settings.active = none)
    (steps : List Step) (going : ∀ step ∈ steps, step.resets = false) :
    world.gather environmentLog steps =
      ((world.gather reading steps).head?.map environmentLines).getD [] := by
  induction steps using List.reverseRecOn with
  | nil => rfl
  | append_singleton steps step induction =>
      have earlier : ∀ step ∈ steps, step.resets = false := fun step member =>
        going step (List.mem_append_left _ member)
      have unreadYet := world.unread_iff unread steps earlier
      rw [gather_snoc, gather_snoc, induction earlier, environment_log_step, reading_log_eq]
      cases found : world.gather reading steps with
      | nil =>
          rw [if_pos (unreadYet.2 found)]
          by_cases reader : (world.run steps).reads step <;> simp [reader, reading]
      | cons environment later =>
          have read : ¬(world.run steps).settings.active = none := by simp [unreadYet, found]
          simp [read]

theorem unread_before_epoch (shared : SharedGenerator) (steps : List Step) :
    ((start shared).run (beforeEpoch steps)).settings.active = none := by
  induction steps using List.reverseRecOn with
  | nil => rfl
  | append_singleton steps step induction =>
      unfold beforeEpoch at induction ⊢
      by_cases resetting : step.resets
      · rw [List.rdropWhile_concat_neg _ _ _ (by simp [resetting]), run_snoc]
        cases step with
        | resetSettings => rfl
        | _ => simp [Step.resets] at resetting
      · rw [List.rdropWhile_concat_pos _ _ _ (by simp [resetting])]
        exact induction

/-- At every moment of every run, with the epoch that it lies in. The configuration is what the
environment came to at the first reading of the epoch, overlaid with the overrides accepted in the
epoch, in order; before the first reading it is what the environment comes to now. Once it is
active, no step changes it but a reset and accepted overrides, and it passes its own check. A step
writes that an environment is passed over exactly if it is the first of the epoch to read, the
policy variable holds a text that is no policy and the debug variable a text that means on; so an
epoch has at most one such line. An environment comes to the policy that it names and is switched on
by such a text alone, and accepted overrides change the two fields as their items say. -/
theorem configuration_epochs (shared : SharedGenerator) (steps : List Step) :
    let epoch := currentEpoch steps
    let opening := (start shared).run (beforeEpoch steps)
    let world := (start shared).run steps
    let settled := (opening.gather reading epoch).head?.map fun environment =>
      (opening.gather accepted epoch).foldl Config.overlay environment.base
    opening.run epoch = world ∧
    world.settings.active = settled ∧
    world.config = settled.getD world.settings.environment.base ∧
    (∀ environment : Environment,
      (environment.base.policy = .detach ↔
        environment.get? Config.policyVariable = some Policy.detach.word) ∧
      (environment.base.debug = true ↔ environment.SwitchedOn)) ∧
    (∀ overrides ∈ opening.gather accepted epoch, ∀ before : Config,
      let after := before.overlay overrides
      Config.SetsPolicy before.policy (overrides.entry Config.policyField) after.policy ∧
        Config.SetsSwitch before.debug (overrides.entry Config.debugField) after.debug) ∧
    (∀ step config, world.settings.active = some config → step.resets = false →
      world.accepted step = [] → (world.step step).settings.active = some config) ∧
    (∀ config, world.settings.active = some config →
      Config.parse (.record config.entries) = .ok config) ∧
    (∀ step, world.environmentLog step ≠ [] ↔
      world.reads step ∧ opening.gather reading epoch = [] ∧
        (∃ word, world.settings.environment.get? Config.policyVariable = some word ∧
          word ≠ "" ∧ word ∉ Policy.words) ∧
        world.settings.environment.SwitchedOn) ∧
    (opening.gather environmentLog epoch).length ≤ 1 := by
  intro epoch opening world settled
  have unread : opening.settings.active = none := unread_before_epoch shared steps
  have going : ∀ step ∈ epoch, step.resets = false := by
    intro step member
    simpa using List.mem_rtakeWhile_imp member
  have whole : opening.run epoch = world := by
    rw [← run_append]
    exact congrArg (start shared).run List.rdropWhile_append_rtakeWhile
  have active : world.settings.active = settled := by
    rw [← whole]
    exact active_run opening unread epoch going
  have fresh : world.settings.active = none ↔ opening.gather reading epoch = [] := by
    rw [← whole]
    exact opening.unread_iff unread epoch going
  refine ⟨whole, active, ?_, ?_, ?_, ?_, fun config _ => Config.parse_entries config, ?_, ?_⟩
  · rw [config_eq, active]
  · intro environment
    exact ⟨environment.base_detaches_iff, environment.debug_iff_switched_on⟩
  · intro overrides member before after
    have taken := forall_mem_gather accepted override_of_mem_accepted opening epoch overrides member
    exact ((before.override_eq_ok_iff after overrides).1 (taken before)).2
  · intro step config before still plain
    rw [active_step world step still, plain, before, List.foldl_nil, config_of_active before,
      ite_self]
  · intro step
    rw [environment_log_step, reading_log_eq, ← fresh, ← environment_lines_ne_nil_iff]
    by_cases reader : world.reads step <;> by_cases first : world.settings.active = none <;>
      simp [reader, first]
  · rw [environment_log_run opening unread epoch going]
    cases (opening.gather reading epoch).head? with
    | none => exact Nat.zero_le 1
    | some environment => exact environment_lines_length_le environment

end World

end AccessNetwork
