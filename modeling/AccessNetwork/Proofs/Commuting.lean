/-!
Lists of actions under keys, such that actions under different keys commute up to a likeness of
states. Two such lists lead to like states if they have the same actions under each key, in the same
order, however the keys are interleaved.
-/

namespace AccessNetwork

set_option autoImplicit false

section Commuting

variable {State Action Key : Type} {act : State → Action → State} {key : Action → Key}
  {Alike : State → State → Prop}

theorem foldl_alike
    (congruent : ∀ left right action, Alike left right → Alike (act left action) (act right action))
    (actions : List Action) {left right : State} (alike : Alike left right) :
    Alike (actions.foldl act left) (actions.foldl act right) := by
  induction actions generalizing left right with
  | nil => exact alike
  | cons action rest induction => exact induction (congruent left right action alike)

/-- An action may be put off until after others that do not share its key. -/
theorem foldl_put_off (equivalence : Equivalence Alike)
    (congruent : ∀ left right action, Alike left right → Alike (act left action) (act right action))
    (commuting : ∀ state first second, key first ≠ key second →
      Alike (act (act state first) second) (act (act state second) first))
    (action : Action) (others : List Action) (apart : ∀ other ∈ others, key other ≠ key action)
    (state : State) :
    Alike (others.foldl act (act state action)) (act (others.foldl act state) action) := by
  induction others generalizing state with
  | nil => exact equivalence.refl _
  | cons other rest induction =>
      have different := apart other List.mem_cons_self
      have remaining : ∀ later ∈ rest, key later ≠ key action :=
        fun later member => apart later (List.mem_cons_of_mem other member)
      have swapped := foldl_alike congruent rest (commuting state action other different.symm)
      exact equivalence.trans swapped (induction remaining (act state other))

variable [DecidableEq Key]

/-- Where two lists have the same actions under each key, the first action of one stands in the
other behind actions under different keys, and without it they still have the same actions. -/
theorem split_at_first_action {action : Action} {rest other : List Action}
    (same : ∀ shared, ((action :: rest).filter fun action => key action = shared) =
      other.filter fun action => key action = shared) :
    ∃ before after, other = before ++ action :: after ∧
      (∀ earlier ∈ before, key earlier ≠ key action) ∧
      ∀ shared, (rest.filter fun action => key action = shared) =
        (before ++ after).filter fun action => key action = shared := by
  have first : (other.filter fun candidate => key candidate = key action) =
      action :: rest.filter fun candidate => key candidate = key action := by
    rw [← same (key action), List.filter_cons_of_pos (by simp)]
  obtain ⟨before, after, split, skipped, _, following⟩ := List.filter_eq_cons_iff.1 first
  refine ⟨before, after, split, ?_, ?_⟩
  · intro earlier member
    simpa using skipped earlier member
  · intro shared
    rw [List.filter_append]
    by_cases own : key action = shared
    · have nothing := List.filter_eq_nil_iff.2 skipped
      rw [own] at nothing following
      rw [nothing, List.nil_append, following]
    · have whole := same shared
      rwa [split, List.filter_append, List.filter_cons_of_neg (by simpa using own),
        List.filter_cons_of_neg (by simpa using own)] at whole

theorem foldl_of_same_actions_per_key (equivalence : Equivalence Alike)
    (congruent : ∀ left right action, Alike left right → Alike (act left action) (act right action))
    (commuting : ∀ state first second, key first ≠ key second →
      Alike (act (act state first) second) (act (act state second) first))
    (left right : List Action)
    (same : ∀ shared, (left.filter fun action => key action = shared) =
      right.filter fun action => key action = shared)
    (state : State) : Alike (left.foldl act state) (right.foldl act state) := by
  induction left generalizing right state with
  | nil =>
      have nothing : right = [] := by
        apply List.eq_nil_iff_forall_not_mem.2
        intro action member
        have unkept := List.filter_eq_nil_iff.1 (same (key action)).symm action member
        simp at unkept
      rw [nothing]
      exact equivalence.refl _
  | cons action rest induction =>
      obtain ⟨before, after, split, apart, remaining⟩ := split_at_first_action same
      have moved : Alike (after.foldl act (before.foldl act (act state action)))
          (after.foldl act (act (before.foldl act state) action)) :=
        foldl_alike congruent after
          (foldl_put_off equivalence congruent commuting action before apart state)
      have resumed := induction (before ++ after) remaining (act state action)
      rw [List.foldl_append] at resumed
      rw [split, List.foldl_append, List.foldl_cons, List.foldl_cons]
      exact equivalence.trans resumed moved

end Commuting

end AccessNetwork
