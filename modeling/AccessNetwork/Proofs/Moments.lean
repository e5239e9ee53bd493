import AccessNetwork.Run
import Mathlib.Data.List.Induction

/-!
Runs moment by moment. An invariant of a run follows from one step. "It happened, and nothing has
undone it since" is a law of the whole run that follows from a law of one step, and so is a rule
that every step obeys. What the steps of a run give one by one is gathered into one list.
-/

namespace AccessNetwork

set_option autoImplicit false

namespace World

theorem run_append (world : World) (earlier later : List Step) :
    world.run (earlier ++ later) = (world.run earlier).run later := by
  simp [run]

theorem run_snoc (world : World) (steps : List Step) (step : Step) :
    world.run (steps ++ [step]) = (world.run steps).step step := by
  simp [run]

theorem run_invariant (Kept : World → Prop)
    (keeps : ∀ world step, Kept world → Kept (world.step step))
    (world : World) (start : Kept world) (steps : List Step) : Kept (world.run steps) := by
  induction steps using List.reverseRecOn with
  | nil => exact start
  | append_singleton steps step induction =>
      rw [run_snoc]
      exact keeps (world.run steps) step induction

/-- At this position of a run stands a step for which something holds, in the world it acts on. -/
def Occurs (world : World) (happens : World → Step → Prop) (steps : List Step) (position : Nat) :
    Prop :=
  ∃ step, steps[position]? = some step ∧ happens (world.run (steps.take position)) step

/-- Something happened at this position of a run, and nothing that undoes it has happened since. -/
def SinceAt (world : World) (happens undoes : World → Step → Prop) (steps : List Step)
    (position : Nat) : Prop :=
  world.Occurs happens steps position ∧
    ∀ later, position < later → ¬world.Occurs undoes steps later

def Since (world : World) (happens undoes : World → Step → Prop) (steps : List Step) : Prop :=
  ∃ position, world.SinceAt happens undoes steps position

theorem occurs_lt_length {world : World} {happens : World → Step → Prop} {steps : List Step}
    {position : Nat} (occurring : world.Occurs happens steps position) :
    position < steps.length := by
  obtain ⟨step, found, _⟩ := occurring
  exact (List.getElem?_eq_some_iff.1 found).1

theorem occurs_snoc (world : World) (happens : World → Step → Prop) (steps : List Step)
    (step : Step) (position : Nat) :
    world.Occurs happens (steps ++ [step]) position ↔
      world.Occurs happens steps position ∨
        (position = steps.length ∧ happens (world.run steps) step) := by
  rcases Nat.lt_trichotomy position steps.length with earlier | last | beyond
  · have apart : ¬position = steps.length := Nat.ne_of_lt earlier
    simp [Occurs, List.getElem?_append_left earlier,
      List.take_append_of_le_length (Nat.le_of_lt earlier), apart]
  · subst position
    simp [Occurs]
  · have outside : (steps ++ [step]).length ≤ position := by
      rw [List.length_append]
      exact beyond
    have apart : ¬position = steps.length := Nat.ne_of_gt beyond
    simp [Occurs, List.getElem?_eq_none outside, List.getElem?_eq_none (Nat.le_of_lt beyond), apart]

theorem since_at_lt_length {world : World} {happens undoes : World → Step → Prop}
    {steps : List Step} {position : Nat} (since : world.SinceAt happens undoes steps position) :
    position < steps.length :=
  occurs_lt_length since.1

theorem since_at_snoc (world : World) (happens undoes : World → Step → Prop) (steps : List Step)
    (step : Step) (position : Nat) :
    world.SinceAt happens undoes (steps ++ [step]) position ↔
      (position = steps.length ∧ happens (world.run steps) step) ∨
        (world.SinceAt happens undoes steps position ∧ ¬undoes (world.run steps) step) := by
  simp only [SinceAt, occurs_snoc, not_or, not_and]
  constructor
  · intro since
    obtain ⟨earlier | last, untouched⟩ := since
    · refine .inr ⟨⟨earlier, fun later after => (untouched later after).1⟩, ?_⟩
      exact (untouched steps.length (occurs_lt_length earlier)).2 rfl
    · exact .inl last
  · intro since
    rcases since with ⟨last, happening⟩ | ⟨⟨earlier, untouched⟩, kept⟩
    · refine ⟨.inr ⟨last, happening⟩, ?_⟩
      intro later after
      constructor
      · intro undone
        have before := occurs_lt_length undone
        omega
      · omega
    · exact ⟨.inl earlier, fun later after => ⟨untouched later after, fun _ => kept⟩⟩

theorem since_snoc (world : World) (happens undoes : World → Step → Prop) (steps : List Step)
    (step : Step) :
    world.Since happens undoes (steps ++ [step]) ↔
      happens (world.run steps) step ∨
        (world.Since happens undoes steps ∧ ¬undoes (world.run steps) step) := by
  simp only [Since, since_at_snoc]
  constructor
  · intro since
    obtain ⟨position, ⟨_, last⟩ | ⟨earlier, kept⟩⟩ := since
    · exact .inl last
    · exact .inr ⟨⟨position, earlier⟩, kept⟩
  · intro since
    rcases since with last | ⟨⟨position, earlier⟩, kept⟩
    · exact ⟨steps.length, .inl ⟨rfl, last⟩⟩
    · exact ⟨position, .inr ⟨earlier, kept⟩⟩

theorem not_since_at_nil (world : World) (happens undoes : World → Step → Prop) (position : Nat) :
    ¬world.SinceAt happens undoes [] position :=
  fun since => Nat.not_lt_zero position (since_at_lt_length since)

def Obeys (world : World) (rule : World → Step → Prop) (steps : List Step) : Prop :=
  ∀ position step, steps[position]? = some step → rule (world.run (steps.take position)) step

theorem obeys_iff_not_occurs (world : World) (rule : World → Step → Prop) (steps : List Step) :
    world.Obeys rule steps ↔
      ∀ position, ¬world.Occurs (fun before step => ¬rule before step) steps position := by
  simp only [Obeys, Occurs, not_exists, not_and, not_not]

theorem obeys_snoc (world : World) (rule : World → Step → Prop) (steps : List Step)
    (step : Step) :
    world.Obeys rule (steps ++ [step]) ↔
      world.Obeys rule steps ∧ rule (world.run steps) step := by
  simp only [obeys_iff_not_occurs, occurs_snoc, not_or, forall_and]
  apply and_congr_right
  intro _
  constructor
  · intro last
    exact not_not.1 fun broken => last steps.length ⟨rfl, broken⟩
  · intro kept position broken
    exact broken.2 kept

theorem obeys_single_iff (world : World) (rule : World → Step → Prop) (step : Step) :
    world.Obeys rule [step] ↔ rule world step := by
  have single := world.obeys_snoc rule [] step
  rw [List.nil_append] at single
  rw [single]
  simp [Obeys, run]

theorem obeys_append (world : World) (rule : World → Step → Prop) (earlier later : List Step) :
    world.Obeys rule (earlier ++ later) ↔
      world.Obeys rule earlier ∧ (world.run earlier).Obeys rule later := by
  induction later using List.reverseRecOn with
  | nil => simp [Obeys]
  | append_singleton later step induction =>
      rw [← List.append_assoc, obeys_snoc, obeys_snoc, induction, run_append, and_assoc]

/-- Something holds in every world that a run passes through, the first and the last included. -/
def Throughout (world : World) (Holds : World → Prop) (steps : List Step) : Prop :=
  ∀ count, Holds (world.run (steps.take count))

theorem throughout_snoc (world : World) (Holds : World → Prop) (steps : List Step) (step : Step) :
    world.Throughout Holds (steps ++ [step]) ↔
      world.Throughout Holds steps ∧ Holds ((world.run steps).step step) := by
  rw [← run_snoc]
  constructor
  · intro always
    constructor
    · intro count
      have earlier := always (min count steps.length)
      rwa [List.take_append_of_le_length (Nat.min_le_right _ _), ← List.take_eq_take_min] at earlier
    · have last := always (steps ++ [step]).length
      rwa [List.take_length] at last
  · intro both count
    obtain ⟨always, last⟩ := both
    by_cases inside : count ≤ steps.length
    · rw [List.take_append_of_le_length inside]
      exact always count
    · have beyond : (steps ++ [step]).length ≤ count := by
        rw [List.length_append, List.length_singleton]
        omega
      rw [List.take_of_length_le beyond]
      exact last

/-- A property that each step establishes, leaves or undoes holds after a run exactly if it was
established and not undone since. The steps may count on an invariant of the run. -/
theorem holds_iff_since_of_invariant (Kept Holds : World → Prop)
    {happens undoes : World → Step → Prop}
    (keeps : ∀ world step, Kept world → Kept (world.step step))
    (law : ∀ world step, Kept world →
      (Holds (world.step step) ↔ happens world step ∨ (Holds world ∧ ¬undoes world step)))
    (world : World) (start : Kept world) (unheld : ¬Holds world) (steps : List Step) :
    Holds (world.run steps) ↔ world.Since happens undoes steps := by
  induction steps using List.reverseRecOn with
  | nil =>
      constructor
      · intro holding
        exact (unheld holding).elim
      · intro since
        obtain ⟨position, since⟩ := since
        exact (not_since_at_nil world happens undoes position since).elim
  | append_singleton steps step induction =>
      have kept := run_invariant Kept keeps world start steps
      rw [run_snoc, law (world.run steps) step kept, induction, since_snoc]

theorem holds_iff_since (Holds : World → Prop) {happens undoes : World → Step → Prop}
    (law : ∀ world step,
      Holds (world.step step) ↔ happens world step ∨ (Holds world ∧ ¬undoes world step))
    (world : World) (unheld : ¬Holds world) (steps : List Step) :
    Holds (world.run steps) ↔ world.Since happens undoes steps :=
  holds_iff_since_of_invariant (fun _ => True) Holds (fun _ _ _ => trivial)
    (fun world step _ => law world step) world trivial unheld steps

section Gathering

variable {Item : Type} (give : World → Step → List Item)

/-- What the steps of a run give, in order, each in the world that it acts on. -/
def gather (world : World) : List Step → List Item
  | [] => []
  | next :: rest => give world next ++ (world.step next).gather rest

theorem gather_append (world : World) (earlier later : List Step) :
    world.gather give (earlier ++ later) =
      world.gather give earlier ++ (world.run earlier).gather give later := by
  induction earlier generalizing world with
  | nil => rfl
  | cons next rest induction =>
      rw [List.cons_append, gather, gather, induction (world.step next), List.append_assoc]
      rfl

theorem gather_snoc (world : World) (steps : List Step) (step : Step) :
    world.gather give (steps ++ [step]) =
      world.gather give steps ++ give (world.run steps) step := by
  rw [gather_append, gather, gather, List.append_nil]

theorem forall_mem_gather {Fine : Item → Prop}
    (fine : ∀ world step, ∀ item ∈ give world step, Fine item) (world : World)
    (steps : List Step) : ∀ item ∈ world.gather give steps, Fine item := by
  induction steps generalizing world with
  | nil =>
      intro item member
      exact absurd member List.not_mem_nil
  | cons next rest induction =>
      intro item member
      rcases List.mem_append.1 member with first | later
      · exact fine world next item first
      · exact induction (world.step next) item later

end Gathering

end World

end AccessNetwork
