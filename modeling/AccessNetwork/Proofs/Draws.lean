import AccessNetwork.Proofs.Tally

/-!
The identifiers that a run draws. All of them come from the shared generator, in the order of the
steps that ask for them, so between two seedings a run draws what a generator with that seed draws
one number after another. Where no seed was given the system's next one takes its place, and it is
taken once. A node that is given an identifier keeps it, and takes nothing from the generator.
-/

namespace AccessNetwork

open AccessNetwork.Identity

set_option autoImplicit false

namespace Identity

def drawnValue (id : Nat) : Written := .number (.ofInt id)

theorem asks_for_drawn_iff (requested : Written) :
    asksForDrawn requested = true ↔ requested = .absent ∨ requested = .number invalidId := by
  rw [Written.ext_iff, Written.ext_iff, asksForDrawn, Written.absent, Written.number]
  cases requested.value <;> simp

namespace WordStream

theorem draw_ids_succ (count : Nat) (stream : WordStream) :
    stream.drawIds (count + 1) =
      (stream.drawId.1 :: (stream.drawId.2.drawIds count).1,
        (stream.drawId.2.drawIds count).2) := rfl

theorem draw_up_to_in_range (bound : Nat) (positive : 0 < bound) (fits : bound ≤ UInt32.size)
    (stream : WordStream) :
    1 ≤ (stream.drawUpTo bound positive fits).1 ∧
      (stream.drawUpTo bound positive fits).1 ≤ bound := by
  have remainder := Nat.mod_lt
    (drawBelow (acceptLimit bound) (accept_limit_positive bound positive fits) stream).1.toNat
    positive
  simp only [drawUpTo]
  omega

theorem draw_ids_in_range (count : Nat) (stream : WordStream) :
    ∀ id ∈ (stream.drawIds count).1, 1 ≤ id ∧ id ≤ maxId := by
  induction count generalizing stream with
  | zero =>
      intro id member
      exact absurd member List.not_mem_nil
  | succ count induction =>
      intro id member
      rcases List.mem_cons.1 member with first | other
      · exact first ▸ stream.draw_up_to_in_range maxId (by decide) (by decide)
      · exact induction stream.drawId.2 id other

end WordStream

namespace SharedGenerator

theorem draw_ids_succ (count : Nat) (shared : SharedGenerator) :
    shared.drawIds (count + 1) =
      (shared.drawId.1 :: (shared.drawId.2.drawIds count).1,
        (shared.drawId.2.drawIds count).2) := rfl

theorem draw_ids_add (first second : Nat) (shared : SharedGenerator) :
    shared.drawIds (first + second) =
      ((shared.drawIds first).1 ++ ((shared.drawIds first).2.drawIds second).1,
        ((shared.drawIds first).2.drawIds second).2) := by
  induction first generalizing shared with
  | zero =>
      rw [Nat.zero_add]
      rfl
  | succ first induction =>
      rw [Nat.add_right_comm, draw_ids_succ, draw_ids_succ]
      -- A draw is kept closed: its search for a word has no value for a stream that is not known.
      rcases shared.drawId with ⟨id, after⟩
      rw [induction after]
      rfl

theorem draw_id_eq (shared : SharedGenerator) :
    shared.drawId.1 = shared.current.drawId.1 ∧
      shared.drawId.2.current = shared.current.drawId.2 := by
  rw [drawId]
  rcases shared.current.drawId with ⟨id, after⟩
  exact ⟨rfl, rfl⟩

/-- The shared generator gives what its stream gives, and keeps what that leaves. -/
theorem draw_ids_eq (count : Nat) (shared : SharedGenerator) :
    (shared.drawIds count).1 = (shared.current.drawIds count).1 ∧
      (shared.drawIds count).2.current = (shared.current.drawIds count).2 := by
  induction count generalizing shared with
  | zero => exact ⟨rfl, rfl⟩
  | succ count induction =>
      obtain ⟨drawn, left⟩ := shared.draw_id_eq
      obtain ⟨others, after⟩ := induction shared.drawId.2
      rw [draw_ids_succ, WordStream.draw_ids_succ, others, after, drawn, left]
      exact ⟨rfl, rfl⟩

theorem taken_draw_id (shared : SharedGenerator) :
    shared.drawId.2.stream.isNone = false ∧
      shared.drawId.2.taken = shared.taken + if shared.stream.isNone then 1 else 0 := by
  refine ⟨rfl, ?_⟩
  rw [drawId, obtained]
  cases shared.stream <;> rfl

/-- A seed is taken from the system once, if there is no stream and a number is asked for. -/
theorem taken_draw_ids (count : Nat) (shared : SharedGenerator) :
    (shared.drawIds count).2.taken =
      shared.taken + if shared.stream.isNone ∧ 0 < count then 1 else 0 := by
  induction count generalizing shared with
  | zero => simp [drawIds]
  | succ count induction =>
      obtain ⟨made, taken⟩ := shared.taken_draw_id
      rw [draw_ids_succ, induction, made, taken]
      simp

end SharedGenerator

namespace Generator

/-- The first so many numbers that a generator draws, and the generator they leave, if every one of
these draws ends. -/
def first? : Nat → Generator → Option (List Nat × Generator)
  | 0, generator => some ([], generator)
  | count + 1, generator =>
      generator.next?.bind fun drawn =>
        (first? count drawn.2).map fun others => (drawn.1 :: others.1, others.2)

theorem create_standard (seed : Number) :
    create seed .absent = .ok ⟨.ofSeed seed, maxId, by decide⟩ := rfl

theorem next_standard (stream : WordStream) (positive : 0 < maxId) :
    next? ⟨stream, maxId, positive⟩ =
      some (stream.drawId.1, ⟨stream.drawId.2, maxId, positive⟩) := by
  have fits : maxId ≤ UInt32.size := by decide
  simp [next?, fits, WordStream.drawId]

theorem first_standard (count : Nat) (stream : WordStream) (positive : 0 < maxId) :
    first? count ⟨stream, maxId, positive⟩ =
      some ((stream.drawIds count).1, ⟨(stream.drawIds count).2, maxId, positive⟩) := by
  induction count generalizing stream with
  | zero => rfl
  | succ count induction =>
      rw [first?, next_standard, Option.bind_some, induction, WordStream.draw_ids_succ]
      rcases stream.drawId with ⟨id, after⟩
      rfl

end Generator

end Identity

namespace Step

def reseeds : Step → Bool
  | .reseed _ => true
  | _ => false

def draws : Step → Nat
  | .create _ requested => if asksForDrawn requested then 1 else 0
  | .drawIds count => count
  | _ => 0

def drawnIn : Step → Answer → List Written
  | .create _ requested, .identified identifier _ =>
      if asksForDrawn requested then [identifier] else []
  | .drawIds _, .identifiers drawn => drawn.map drawnValue
  | _, _ => []

end Step

namespace World

def drawnIds (world : World) (steps : List Step) : List Written :=
  world.gather (fun before step => step.drawnIn (before.answer step)) steps

theorem identifier_create (world : World) (entity : Entity) (requested : Written) :
    (world.create entity requested).identifier entity =
      if asksForDrawn requested then drawnValue world.shared.drawId.1 else requested := by
  unfold create identifier
  split <;> simp [assign, drawnValue]

theorem shared_create (world : World) (entity : Entity) (requested : Written) :
    (world.create entity requested).shared =
      if asksForDrawn requested then world.shared.drawId.2 else world.shared := by
  unfold create
  rcases world.shared.drawId with ⟨id, after⟩
  split <;> rfl

theorem drawn_in_step (world : World) (step : Step) :
    step.drawnIn (world.answer step) =
      (world.shared.drawIds step.draws).1.map drawnValue := by
  cases step with
  | create entity requested =>
      simp only [Step.drawnIn, answer, Step.draws, identifier_create]
      split
      · rw [SharedGenerator.draw_ids_succ]
        rcases world.shared.drawId with ⟨id, after⟩
        rfl
      · rfl
  | drawIds count => simp only [Step.drawnIn, answer, Step.draws]
  | _ => rfl

theorem shared_step (world : World) (step : Step) (going : step.reseeds = false) :
    (world.step step).shared = (world.shared.drawIds step.draws).2 := by
  cases step with
  | create entity requested =>
      rw [World.step, shared_create, Step.draws]
      split
      · rw [SharedGenerator.draw_ids_succ]
        rcases world.shared.drawId with ⟨id, after⟩
        rfl
      · rfl
  | release station device =>
      simp only [World.step, release]
      split <;> rfl
  | associated station device =>
      simp only [World.step]
      split <;> rfl
  | beat entity success times =>
      simp only [World.step]
      split <;> rfl
  | heartbeats entity reset =>
      simp only [World.step]
      split <;> rfl
  | reseed seed => simp [Step.reseeds] at going
  | _ => rfl

/-- Along a run that is not seeded anew, the generator gives what it would give on its own. -/
theorem drawn_ids_run (world : World) (steps : List Step)
    (going : ∀ step ∈ steps, step.reseeds = false) :
    let count := world.tally (fun _ step => step.draws) steps
    world.drawnIds steps = (world.shared.drawIds count).1.map drawnValue ∧
      (world.run steps).shared = (world.shared.drawIds count).2 := by
  induction steps using List.reverseRecOn with
  | nil => exact ⟨rfl, rfl⟩
  | append_singleton steps step induction =>
      obtain ⟨shown, left⟩ := induction fun earlier member =>
        going earlier (List.mem_append_left [step] member)
      have still := going step (by simp)
      unfold drawnIds at shown ⊢
      constructor
      · rw [gather_snoc, shown, drawn_in_step, left, tally_snoc, SharedGenerator.draw_ids_add,
          List.map_append]
      · rw [run_snoc, shared_step _ _ still, left, tally_snoc, SharedGenerator.draw_ids_add]

/-- From any seeding in a run up to the next one: the drawn identifiers that nodes and callers get,
in order, are the first numbers of a new generator with that seed, or with the system's next one if
none was given; each is from one to `maxId`, and there are as many as were asked for. The system is
asked for a seed at most once. A new node asks for a number if it is given none or the invalid one;
any other it keeps as it was given. No step but those that ask changes anything in the generator. -/
theorem drawn_ids_follow_generator (shared : SharedGenerator) (seed : Option Number)
    (earlier later : List Step) :
    let seeded := ((start shared).run earlier).step (.reseed seed)
    let steps := later.takeWhile fun step => !step.reseeds
    let chosen := seed.getD seeded.shared.systemSeed
    let count := seeded.tally (fun _ step => step.draws) steps
    ∃ generator, Generator.create chosen .absent = .ok generator ∧
    ∃ ids after, generator.first? count = some (ids, after) ∧
      seeded.drawnIds steps = ids.map drawnValue ∧
      (∀ id ∈ ids, 1 ≤ id ∧ id ≤ maxId) ∧
      (seeded.run steps).shared.current = after.stream ∧
      (seeded.run steps).shared.taken =
        seeded.shared.taken + (if seed.isNone ∧ 0 < count then 1 else 0) ∧
      seeded.Obeys (fun before step =>
        (∀ entity requested, step = .create entity requested →
          (step.draws = 1 ↔ requested = .absent ∨ requested = .number invalidId) ∧
          (step.draws ≠ 1 →
            step.draws = 0 ∧ (before.step step).identifier entity = requested)) ∧
        (step.draws = 0 → (before.step step).shared = before.shared)) steps := by
  intro seeded steps chosen count
  have going : ∀ step ∈ steps, step.reseeds = false := by
    intro step member
    simpa using List.mem_takeWhile_imp member
  have stream : seeded.shared.current = .ofSeed chosen := by cases seed <;> rfl
  have unmade : seeded.shared.stream.isNone = seed.isNone := Option.isNone_map
  obtain ⟨shown, left⟩ := seeded.drawn_ids_run steps going
  obtain ⟨given, current⟩ := SharedGenerator.draw_ids_eq count seeded.shared
  rw [given] at shown
  rw [← left, stream] at current
  rw [stream] at shown
  refine ⟨_, Generator.create_standard chosen, _, _, Generator.first_standard count _ _, shown,
    WordStream.draw_ids_in_range count _, current, ?_, ?_⟩
  · rw [left, SharedGenerator.taken_draw_ids, unmade]
  · intro position step found
    constructor
    · intro entity requested creating
      subst creating
      rw [← asks_for_drawn_iff, World.step, identifier_create]
      by_cases asking : asksForDrawn requested <;> simp [Step.draws, asking]
    · intro idle
      rw [shared_step _ _ (going step (List.mem_of_getElem? found)), idle]
      rfl

end World

end AccessNetwork
