import AccessNetwork.Proofs.Indistinguishable

/-!
Questions leave no mark. They may forget a dangling reference or open a listing or a record of
counts, but the worlds before and after cannot be told apart by any later step. So questions can be
put into a run anywhere, and every other step answers and writes what it did without them.
-/

namespace AccessNetwork

open AccessNetwork.Identity

set_option autoImplicit false

/-- Asking for owners, members, labels, counts without a reset, inspections, and what some
environment would be read as. Reading the active configuration loads it, and is no question. -/
def Step.asks : Step → Bool
  | .describe _ => true
  | .members _ => true
  | .owner _ => true
  | .associated _ _ => true
  | .validate _ => true
  | .consistent _ => true
  | .heartbeats _ reset => !reset
  | .configFrom _ => true
  | _ => false

theorem asks_eq (step : Step) : step.asks = (step.isIdle && step.staysInside) := by
  cases step <;> simp [Step.asks, Step.isIdle, Step.staysInside]

structure Question where
  step : Step
  asks : step.asks

/-- The steps of a run with questions put in between. -/
abbrev Script := List (Step ⊕ Question)

namespace Script

def steps (script : Script) : List Step := script.map (Sum.elim id Question.step)

def withoutQuestions (script : Script) : List Step := script.filterMap Sum.getLeft?

end Script

namespace World

/-- What the steps of a run answer and write while questions are put in between, with what the
questions themselves answer left out. -/
def outcomesAmongQuestions (world : World) (script : Script) : List (Answer × List Diagnostic) :=
  ((world.outcomes script.steps).zip script).filterMap fun heard =>
    heard.2.getLeft?.map fun _ => heard.1

theorem among_questions_step (world : World) (step : Step) (rest : Script) :
    world.outcomesAmongQuestions (.inl step :: rest) =
      (world.answer step, world.log step) :: (world.step step).outcomesAmongQuestions rest := rfl

theorem among_questions_question (world : World) (question : Question) (rest : Script) :
    world.outcomesAmongQuestions (.inr question :: rest) =
      (world.step question.step).outcomesAmongQuestions rest := rfl

theorem indistinguishable_question (world : World) (question : Question) :
    Indistinguishable (world.step question.step) world := by
  have asking := question.asks
  rw [asks_eq, Bool.and_eq_true] at asking
  exact ⟨world.same_views_step_of_idle asking.1, world.heartbeats_step_of_idle asking.1,
    world.same_outside_step asking.2⟩

/-- The run with the questions simulates the run without them: at each original step the two worlds
cannot be told apart. -/
theorem among_questions_of_indistinguishable {left right : World}
    (same : Indistinguishable left right) (script : Script) :
    left.outcomesAmongQuestions script = right.outcomes script.withoutQuestions ∧
      Indistinguishable (left.run script.steps) (right.run script.withoutQuestions) := by
  induction script generalizing left right with
  | nil => exact ⟨rfl, same⟩
  | cons entry rest induction =>
      cases entry with
      | inl step =>
          obtain ⟨later, final⟩ := induction (indistinguishable_step same step)
          refine ⟨?_, final⟩
          rw [among_questions_step, answer_of_indistinguishable same step,
            log_of_indistinguishable same step, later]
          rfl
      | inr question =>
          have unmarked := (left.indistinguishable_question question).trans same
          obtain ⟨later, final⟩ := induction unmarked
          refine ⟨?_, final⟩
          rw [among_questions_question, later]
          rfl

/-- Whatever questions are put into a run from an empty network, and wherever, the other steps
answer and write what they do without the questions, and the worlds at the end cannot be told
apart. -/
theorem questions_leave_no_mark (shared : SharedGenerator) (script : Script) :
    (start shared).outcomesAmongQuestions script =
        (start shared).outcomes script.withoutQuestions ∧
      Indistinguishable ((start shared).run script.steps)
        ((start shared).run script.withoutQuestions) :=
  among_questions_of_indistinguishable (Indistinguishable.refl (start shared)) script

end World

end AccessNetwork
